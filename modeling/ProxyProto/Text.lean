import ProxyProto.Wire
import Mathlib.Data.Nat.Digits
import Mathlib.Tactic.IntervalCases

/-!
# The standard library's text functions

What the version-1 codec calls to turn numbers and addresses into text and
back: `strconv.Itoa`, `strconv.Atoi`, `strings.Split`, `net.IP.String` and
`netip.ParseAddr`, each over the byte strings the codec passes it.

## Implementation notes

These functions belong to the Go standard library, not to the repository; they
are modelled from its documented behaviour on ASCII text. `netip.ParseAddr` is
modelled as the language it accepts, field by field, rather than as its byte
loop; an IPv4 address written inside an IPv6 one may only end it.

Each reader reads back what its writer writes: `atoi_itoa` for numbers,
`parseAddr_string4` for dotted addresses and `parseAddr_string6` for the colon
form with its `::`, and the written text holds none of the separators of a
version-1 line. `Nat.toDigits` is read through its last-digit equation
(`toDigits_eq`).
-/

namespace ProxyProto

/-- The ASCII bytes of a string literal. -/
def ascii (s : String) : Bytes := s.toList.map Char.toUInt8

/-! ### Numbers -/

def isDigit (c : UInt8) : Bool := 0x30 ≤ c && c ≤ 0x39

def isHexDigit (c : UInt8) : Bool :=
  isDigit c || (0x61 ≤ c && c ≤ 0x66) || (0x41 ≤ c && c ≤ 0x46)

/-- The value of one hex digit. -/
def hexDigitValue (c : UInt8) : Nat :=
  if isDigit c then c.toNat - 0x30 else if 0x61 ≤ c then c.toNat - 0x61 + 10 else c.toNat - 0x41 + 10

/-- The value of a nonempty string of decimal digits. -/
def digitsValue (s : Bytes) : Option Nat :=
  if s ≠ [] ∧ s.all isDigit then some (s.foldl (fun v c => 10 * v + (c.toNat - 0x30)) 0) else none

/-- The decimal digits of a natural number. -/
def decimal (n : Nat) : Bytes := (Nat.toDigits 10 n).map Char.toUInt8

/-- `strconv.Itoa`. -/
def itoa (n : Int) : Bytes := if n < 0 then ascii "-" ++ decimal n.natAbs else decimal n.toNat

/-- `strconv.Atoi`: an optional sign, then decimal digits, within the range of
`int` (64 bits: `math.MinInt64` to `math.MaxInt64`). -/
def atoi (s : Bytes) : Option Int :=
  let (neg, digits) : Bool × Bytes :=
    match s with
    | c :: rest => if c = 0x2D then (true, rest) else if c = 0x2B then (false, rest) else (false, s)
    | [] => (false, [])
  match digitsValue digits with
  | none => none
  | some v =>
    let n : Int := if neg then -v else v
    if n < -9223372036854775808 ∨ 9223372036854775807 < n then none else some n

/-- `strings.Split` with a one-byte separator. -/
def split (s : Bytes) (sep : UInt8) : List Bytes := s.splitOn sep

/-- Byte strings joined with a one-byte separator. -/
def join (sep : UInt8) : List Bytes → Bytes
  | [] => []
  | [x] => x
  | x :: xs => x ++ sep :: join sep xs

/-! ### Writing an IP -/

/-- Lowercase hex without leading zeros, as `appendHex` writes a group. -/
def hexGroup (v : Nat) : Bytes := (Nat.toDigits 16 v).map Char.toUInt8

/-- `hexString`: two lowercase hex digits a byte. -/
def hexString (b : Bytes) : Bytes :=
  b.flatMap fun c => hexGroup (c.toNat / 16) ++ hexGroup (c.toNat % 16)

/-- The dotted form of four bytes. -/
def string4 (b : Bytes) : Bytes := join 0x2E (b.map fun c => decimal c.toNat)

/-- The eight 16-bit groups of a sixteen-byte address. -/
def groups6 (b : Bytes) : List Nat :=
  (List.range 8).map fun i => (b.getD (2 * i) 0).toNat * 256 + (b.getD (2 * i + 1) 0).toNat

/-- The first longest run of at least two zero groups, as its first and past-the-end index. -/
def zeroRun (g : List Nat) : Option (Nat × Nat) :=
  (List.range 8).foldl (fun best i =>
    let j := i + ((g.drop i).takeWhile (· == 0)).length
    if 2 ≤ j - i ∧ best.elim 0 (fun r => r.2 - r.1) < j - i then some (i, j) else best) none

/-- `appendTo6`: the groups in hex, the run of `zeroRun` written `::`. -/
def string6 (b : Bytes) : Bytes :=
  let g := groups6 b
  match zeroRun g with
  | some (i, j) =>
    join 0x3A ((g.take i).map hexGroup) ++ ascii "::" ++ join 0x3A ((g.drop j).map hexGroup)
  | none => join 0x3A (g.map hexGroup)

/-- `net.IP.String`: dotted for an IPv4 address, also one mapped into IPv6. -/
def IP.string (ip : IP) : Bytes :=
  if ip.bytes.length = 0 then ascii "<nil>"
  else if ip.bytes.length ≠ 4 ∧ ip.bytes.length ≠ 16 then ascii "?" ++ hexString ip.bytes
  else
    match ip.to4 with
    | some p4 => string4 p4.bytes
    | none => string6 ip.bytes

/-! ### Reading an IP -/

/-- `netip.Addr`: an IPv4 address, or an IPv6 address with its zone. -/
inductive NetipAddr where
  | v4 (bytes : Bytes)
  | v6 (bytes : Bytes) (zone : Bytes)
  deriving DecidableEq, Repr

namespace NetipAddr

def is4 : NetipAddr → Bool
  | .v4 _ => true
  | .v6 _ _ => false

def is6 : NetipAddr → Bool
  | .v4 _ => false
  | .v6 _ _ => true

def is4In6 : NetipAddr → Bool
  | .v4 _ => false
  | .v6 b _ => b.take 12 == IP.v4InV6Prefix

def asSlice : NetipAddr → Bytes
  | .v4 b => b
  | .v6 b _ => b

end NetipAddr

/-- One field of a dotted address: digits without a leading zero, at most 255. -/
def parseIPv4Field (f : Bytes) : Option UInt8 :=
  match digitsValue f with
  | some v => if (1 < f.length ∧ f.head? = some 0x30) ∨ 255 < v then none else some (UInt8.ofNat v)
  | none => none

/-- `parseIPv4`: exactly four fields. -/
def parseIPv4 (s : Bytes) : Option Bytes :=
  match split s 0x2E with
  | [a, b, c, d] => [a, b, c, d].mapM parseIPv4Field
  | _ => none

/-- One colon-separated field: one to four hex digits. -/
def parseHexGroup (f : Bytes) : Option Bytes :=
  if f = [] ∨ 4 < f.length ∨ !f.all isHexDigit then none
  else some (putUint16 (f.foldl (fun v c => 16 * v + hexDigitValue c) 0))

/-- Hex groups separated by colons, the last of which may be a dotted address
when `tail` allows it. -/
def parseIPv6Fields (tail : Bool) (s : Bytes) : Option Bytes :=
  if s = [] then some [] else
  let fs := split s 0x3A
  if tail ∧ (fs.getLast?.getD []).contains 0x2E then do
    let init ← fs.dropLast.mapM parseHexGroup
    let v4 ← parseIPv4 (fs.getLast?.getD [])
    some (init.flatten ++ v4)
  else do
    let gs ← fs.mapM parseHexGroup
    some gs.flatten

/-- The text on both sides of the first `::`, if there is one. -/
def splitEllipsis : Bytes → Option (Bytes × Bytes)
  | [] => none
  | [_] => none
  | a :: b :: rest =>
    if a = 0x3A ∧ b = 0x3A then some ([], rest)
    else (splitEllipsis (b :: rest)).map fun (l, r) => (a :: l, r)

/-- `parseIPv6`: sixteen bytes, a `::` standing for at least one zero group, and a zone after `%`. -/
def parseIPv6 (s : Bytes) : Option NetipAddr :=
  let (addr, zone) : Bytes × Option Bytes :=
    match s.findIdx? (· == 0x25) with
    | some i => (s.take i, some (s.drop (i + 1)))
    | none => (s, none)
  if zone = some [] then none else
  match splitEllipsis addr with
  | none => do
    let b ← parseIPv6Fields true addr
    if b.length = 16 then some (.v6 b (zone.getD [])) else none
  | some (l, r) => do
    let lb ← parseIPv6Fields false l
    let rb ← parseIPv6Fields true r
    if (splitEllipsis r).isSome ∨ 14 < lb.length + rb.length then none
    else some (.v6 (lb ++ List.replicate (16 - lb.length - rb.length) 0 ++ rb) (zone.getD []))

/-- `netip.ParseAddr`: the first dot, colon or percent sign decides the form. -/
def parseAddr (s : Bytes) : Option NetipAddr :=
  match s.find? (fun c => c == 0x2E || c == 0x3A || c == 0x25) with
  | some 0x2E => (parseIPv4 s).map .v4
  | some 0x3A => parseIPv6 s
  | _ => none

/-! ### Reading back what was written -/

section Digits

variable {base : Nat}

/-- `Nat.toDigitsCore` writes the same digits with any fuel past the number. -/
theorem toDigitsCore_fuel (hb : 1 < base) : ∀ (f1 f2 n : Nat) (ds : List Char), n < f1 → n < f2 →
    Nat.toDigitsCore base f1 n ds = Nat.toDigitsCore base f2 n ds
  | 0, _, _, _, h, _ | _, 0, _, _, _, h => absurd h (Nat.not_lt_zero _)
  | f1 + 1, f2 + 1, n, ds, h1, h2 => by
    simp only [Nat.toDigitsCore]
    split_ifs with h0
    · rfl
    · have := Nat.div_lt_self (show 0 < n by rcases n with _ | n <;> simp_all) hb
      exact toDigitsCore_fuel hb f1 f2 _ _ (by omega) (by omega)

/-- `Nat.toDigitsCore` puts its digits in front of the ones it is given. -/
theorem toDigitsCore_append (hb : 1 < base) : ∀ (fuel n : Nat) (ds : List Char), n < fuel →
    Nat.toDigitsCore base fuel n ds = Nat.toDigitsCore base fuel n [] ++ ds
  | 0, _, _, h => absurd h (Nat.not_lt_zero _)
  | fuel + 1, n, ds, h => by
    simp only [Nat.toDigitsCore]
    split_ifs with h0
    · rfl
    · have := Nat.div_lt_self (show 0 < n by rcases n with _ | n <;> simp_all) hb
      rw [toDigitsCore_append hb fuel _ _ (by omega), toDigitsCore_append hb fuel _ [_] (by omega)]
      simp

/-- `Nat.toDigits` writes the digits of `n / base`, unless that is zero, and then
the digit of `n % base`. -/
theorem toDigits_eq (hb : 1 < base) (n : Nat) :
    Nat.toDigits base n =
      (if n / base = 0 then [] else Nat.toDigits base (n / base)) ++ [Nat.digitChar (n % base)] := by
  rw [show Nat.toDigits base n = Nat.toDigitsCore base (n + 1) n [] from rfl, Nat.toDigitsCore]
  split_ifs with h0
  · rfl
  · have := Nat.div_lt_self (show 0 < n by rcases n with _ | n <;> simp_all) hb
    rw [toDigitsCore_append hb _ _ _ this, toDigitsCore_fuel hb n (n / base + 1) _ _ this (by omega)]
    rfl

theorem toDigits_ne_nil (hb : 1 < base) (n : Nat) : Nat.toDigits base n ≠ [] := by
  rw [toDigits_eq hb]; simp

/-- Read back most significant digit first, the digits give the number. -/
theorem foldl_toDigits (hb : 1 < base) {f : Nat → Char → Nat}
    (hf : ∀ v d, d < base → f v (Nat.digitChar d) = base * v + d) (n : Nat) :
    (Nat.toDigits base n).foldl f 0 = n := by
  induction n using Nat.strong_induction_on with
  | _ n ih =>
    have hd := hf (n / base) (n % base) (Nat.mod_lt _ (by omega))
    rw [toDigits_eq hb, List.foldl_append]
    split_ifs with h0
    · have hlt : n < base := (Nat.div_eq_zero_iff (by omega)).1 h0
      simp [Nat.mod_eq_of_lt hlt, hf 0 n hlt]
    · have := Nat.div_lt_self (show 0 < n by rcases n with _ | n <;> simp_all) hb
      simp [ih _ this, hd, Nat.div_add_mod]

/-- `Nat.toDigits` writes only digits of its base. -/
theorem mem_toDigits (hb : 1 < base) {n : Nat} {c : Char} (hc : c ∈ Nat.toDigits base n) :
    ∃ d < base, c = Nat.digitChar d := by
  induction n using Nat.strong_induction_on with
  | _ n ih =>
    rw [toDigits_eq hb] at hc
    split_ifs at hc with h0
    · simp only [List.nil_append, List.mem_singleton] at hc
      exact ⟨_, Nat.mod_lt _ (by omega), hc⟩
    · have := Nat.div_lt_self (show 0 < n by rcases n with _ | n <;> simp_all) hb
      rcases List.mem_append.1 hc with hc | hc
      · exact ih _ this hc
      · exact ⟨_, Nat.mod_lt _ (by omega), List.mem_singleton.1 hc⟩

/-- The first digit of a positive number is not `0`. -/
theorem head_toDigits (hb : 1 < base) (hb16 : base ≤ 16) {n : Nat} (hn : 0 < n) :
    (Nat.toDigits base n).head? ≠ some '0' := by
  induction n using Nat.strong_induction_on with
  | _ n ih =>
    rw [toDigits_eq hb]
    split_ifs with h0
    · have hlt : n < base := (Nat.div_eq_zero_iff (by omega)).1 h0
      rw [Nat.mod_eq_of_lt hlt]
      simp only [List.nil_append, List.head?_cons, ne_eq, Option.some.injEq]
      have : n < 16 := by omega
      interval_cases n <;> decide
    · have := Nat.div_lt_self hn hb
      rw [List.head?_append_of_ne_nil _ (toDigits_ne_nil hb _)]
      exact ih _ this (Nat.pos_of_ne_zero h0)

end Digits

/-- The byte of a digit below sixteen: `0` to `9`, then `a` to `f`. -/
theorem digitByte_facts {d : Nat} (hd : d < 16) :
    isHexDigit (Nat.digitChar d).toUInt8 ∧ hexDigitValue (Nat.digitChar d).toUInt8 = d ∧
    (d < 10 → isDigit (Nat.digitChar d).toUInt8 ∧ (Nat.digitChar d).toUInt8.toNat - 0x30 = d) ∧
    ((Nat.digitChar d).toUInt8 = 0x30 → d = 0) ∧
    (Nat.digitChar d).toUInt8 ∉ [0x0A, 0x20, 0x25, 0x2B, 0x2D, 0x2E, 0x3A] := by
  interval_cases d <;> decide

theorem mem_decimal {n : Nat} {c : UInt8} (hc : c ∈ decimal n) : ∃ d < 10, c = (Nat.digitChar d).toUInt8 := by
  obtain ⟨ch, hch, rfl⟩ := List.mem_map.1 hc
  obtain ⟨d, hd, rfl⟩ := mem_toDigits (by decide) hch
  exact ⟨d, hd, rfl⟩

theorem mem_hexGroup {n : Nat} {c : UInt8} (hc : c ∈ hexGroup n) : ∃ d < 16, c = (Nat.digitChar d).toUInt8 := by
  obtain ⟨ch, hch, rfl⟩ := List.mem_map.1 hc
  obtain ⟨d, hd, rfl⟩ := mem_toDigits (by decide) hch
  exact ⟨d, hd, rfl⟩

theorem decimal_ne_nil (n : Nat) : decimal n ≠ [] := by
  simpa [decimal] using toDigits_ne_nil (by decide) n

theorem hexGroup_ne_nil (n : Nat) : hexGroup n ≠ [] := by
  simpa [hexGroup] using toDigits_ne_nil (by decide) n

/-- The bytes of a decimal number are digits: none separates the fields of a line. -/
theorem decimal_free {n : Nat} : ∀ c ∈ decimal n, c ∉ [0x0A, 0x20, 0x25, 0x2B, 0x2D, 0x2E, 0x3A] := fun c hc => by
  obtain ⟨d, hd, rfl⟩ := mem_decimal hc
  exact (digitByte_facts (by omega)).2.2.2.2

/-- The bytes of a hex group are hex digits: none separates the fields of a line. -/
theorem hexGroup_free {v : Nat} : ∀ c ∈ hexGroup v, c ∉ [0x0A, 0x20, 0x25, 0x2B, 0x2D, 0x2E, 0x3A] := fun c hc => by
  obtain ⟨d, hd, rfl⟩ := mem_hexGroup hc
  exact (digitByte_facts hd).2.2.2.2

/-- A number below `10^k` takes at most `k` decimal digits. -/
theorem length_decimal_le {n k : Nat} (hk : 0 < k) (hn : n < 10 ^ k) : (decimal n).length ≤ k := by
  simpa [decimal] using Nat.toDigitsCore_length 10 (by decide) (n + 1) n k hn hk

/-- A number below `16^k` takes at most `k` hex digits. -/
theorem length_hexGroup_le {n k : Nat} (hk : 0 < k) (hn : n < 16 ^ k) : (hexGroup n).length ≤ k := by
  simpa [hexGroup] using Nat.toDigitsCore_length 16 (by decide) (n + 1) n k hn hk

/-- The digits `strconv.Itoa` writes read back as the number. -/
theorem digitsValue_decimal (n : Nat) : digitsValue (decimal n) = some n := by
  have hall : (decimal n).all isDigit := List.all_eq_true.2 fun c hc => by
    obtain ⟨d, hd, rfl⟩ := mem_decimal hc
    exact ((digitByte_facts (by omega)).2.2.1 hd).1
  rw [digitsValue, if_pos ⟨decimal_ne_nil n, hall⟩, decimal, List.foldl_map,
    foldl_toDigits (by decide) fun v d hd => by rw [((digitByte_facts (by omega)).2.2.1 hd).2]]

/-- A positive number's digits do not start with `0`. -/
theorem head_decimal {n : Nat} (hn : 0 < n) : (decimal n).head? ≠ some 0x30 := by
  rw [decimal, List.head?_map]
  intro h
  obtain ⟨c, hc, hc0⟩ := Option.map_eq_some'.1 h
  obtain ⟨d, hd, rfl⟩ := mem_toDigits (by decide) (List.mem_of_mem_head? hc)
  obtain rfl := (digitByte_facts (by omega)).2.2.2.1 hc0
  exact head_toDigits (by decide) (by decide) hn hc

/-- `strconv.Atoi` reads back what `strconv.Itoa` writes, over the range of `int`. -/
theorem atoi_itoa {n : Int} (hlo : -9223372036854775808 ≤ n) (hhi : n ≤ 9223372036854775807) :
    atoi (itoa n) = some n := by
  unfold itoa
  split_ifs with hn
  · show atoi (0x2D :: decimal n.natAbs) = some n
    simp only [atoi, if_true, digitsValue_decimal]
    rw [if_neg (by omega)]
    congr 1; omega
  · obtain ⟨c, cs, hcs⟩ := List.exists_cons_of_ne_nil (decimal_ne_nil n.toNat)
    obtain ⟨d, hd, rfl⟩ := mem_decimal (hcs ▸ List.mem_cons_self c cs)
    have hsep := (digitByte_facts (by omega : d < 16)).2.2.2.2
    simp only [List.mem_cons, not_or] at hsep
    unfold atoi
    rw [hcs]
    simp only [if_neg hsep.2.2.2.2.1, if_neg hsep.2.2.2.1, Bool.false_eq_true, if_false]
    rw [← hcs, digitsValue_decimal]
    dsimp only
    rw [if_neg (by omega)]
    congr 1; omega

theorem join_eq_intercalate (sep : UInt8) : ∀ xs : List Bytes, join sep xs = [sep].intercalate xs
  | [] => rfl
  | [x] => by simp [join, List.intercalate]
  | x :: y :: rest => by
    rw [join, join_eq_intercalate sep (y :: rest)]
    · simp [List.intercalate, List.intersperse_cons_cons]
    · exact List.cons_ne_nil _ _

/-- `strings.Split` undoes a join on a separator none of the pieces holds. -/
theorem split_join {sep : UInt8} {xs : List Bytes} (hx : ∀ x ∈ xs, sep ∉ x) (hne : xs ≠ []) :
    split (join sep xs) sep = xs := by
  rw [split, join_eq_intercalate, List.splitOn_intercalate xs sep hx hne]

/-- A byte that is not the separator and in none of the pieces is not in their join. -/
theorem not_mem_join (sep : UInt8) {c : UInt8} (hc : c ≠ sep) : ∀ {xs : List Bytes}, (∀ x ∈ xs, c ∉ x) →
    c ∉ join sep xs
  | [], _ => List.not_mem_nil _
  | [x], hx => hx x (List.mem_singleton_self x)
  | x :: y :: rest, hx => by
    rw [join, List.mem_append, List.mem_cons, not_or, not_or]
    · exact ⟨hx x (List.mem_cons_self _ _), hc, not_mem_join sep hc fun z hz => hx z (List.mem_cons_of_mem _ hz)⟩
    · exact List.cons_ne_nil _ _

/-- Two pieces or more are joined by the separator. -/
theorem mem_join_of_two {sep : UInt8} {x y : Bytes} {rest : List Bytes} : sep ∈ join sep (x :: y :: rest) := by
  rw [join]
  · simp
  · exact List.cons_ne_nil _ _

theorem join_ne_nil {sep : UInt8} {x : Bytes} (hx : x ≠ []) (rest : List Bytes) : join sep (x :: rest) ≠ [] := by
  rcases rest with _ | ⟨y, rest⟩
  · exact hx
  · rw [join]
    · simp [hx]
    · exact List.cons_ne_nil _ _

/-- Pieces of at most `k` bytes joined take at most `k + 1` bytes a piece. -/
theorem length_join_le (sep : UInt8) {k : Nat} : ∀ (xs : List Bytes), (∀ x ∈ xs, x.length ≤ k) →
    (join sep xs).length ≤ (k + 1) * xs.length
  | [], _ => by simp [join]
  | [x], hx => by have := hx x (List.mem_singleton_self x); simp [join]; omega
  | x :: y :: rest, hx => by
    have h1 := hx x (List.mem_cons_self _ _)
    have h2 := length_join_le sep (y :: rest) fun z hz => hx z (List.mem_cons_of_mem _ hz)
    rw [join]
    · simp only [List.length_append, List.length_cons] at h2 ⊢; rw [Nat.mul_succ]; omega
    · exact List.cons_ne_nil _ _

/-- `find?` meets first the one kind of byte of `s` that satisfies `p`. -/
theorem find?_eq_of_unique {p : UInt8 → Bool} {s : Bytes} {x : UInt8} (hx : x ∈ s) (hp : p x)
    (hu : ∀ y ∈ s, p y → y = x) : s.find? p = some x := by
  rcases h : s.find? p with _ | y
  · exact absurd hp (List.find?_eq_none.1 h x hx)
  · rw [hu y (List.mem_of_find?_eq_some h) (List.find?_some h)]

theorem ofNat_toNat_UInt8 (x : UInt8) : UInt8.ofNat x.toNat = x :=
  UInt8.toNat.inj (by rw [toNat_ofNat_UInt8, Nat.mod_eq_of_lt (toNat_lt_256 x)])

/-- A byte written in decimal reads back as one field of a dotted address. -/
theorem parseIPv4Field_decimal {v : Nat} (hv : v < 256) : parseIPv4Field (decimal v) = some (UInt8.ofNat v) := by
  unfold parseIPv4Field
  rw [digitsValue_decimal]
  dsimp only
  rw [if_neg]
  rintro (⟨hl, hh⟩ | h)
  · rcases Nat.eq_zero_or_pos v with rfl | hp
    · exact absurd hl (by decide)
    · exact head_decimal hp hh
  · omega

/-- `parseIPv4` reads back the dotted form of four bytes. -/
theorem parseIPv4_string4 {b : Bytes} (hb : b.length = 4) : parseIPv4 (string4 b) = some b := by
  match b, hb with
  | [x0, x1, x2, x3], _ =>
    have hdot : ∀ x ∈ [x0, x1, x2, x3].map (fun c => decimal c.toNat), (0x2E : UInt8) ∉ x := by
      intro x hx hmem
      obtain ⟨c, -, rfl⟩ := List.mem_map.1 hx
      obtain ⟨d, hd, hdc⟩ := mem_decimal hmem
      exact (digitByte_facts (show d < 16 by omega)).2.2.2.2 (by rw [← hdc]; simp)
    rw [parseIPv4, string4, split_join hdot (by simp)]
    simp only [List.map_cons, List.map_nil, List.mapM_cons, List.mapM_nil, parseIPv4Field_decimal (toNat_lt_256 _),
      ofNat_toNat_UInt8]
    rfl

/-- What `string4` writes holds no colon, `%`, space or newline. -/
theorem string4_free (b : Bytes) : ∀ c ∈ string4 b, c ∉ [0x0A, 0x20, 0x25, 0x3A] := by
  intro c hc hF
  refine not_mem_join 0x2E (c := c) (by rintro rfl; exact absurd hF (by decide)) ?_ hc
  intro x hx hcx
  obtain ⟨w, -, rfl⟩ := List.mem_map.1 hx
  exact decimal_free c hcx ((by decide : ([0x0A, 0x20, 0x25, 0x3A] : Bytes) ⊆ [0x0A, 0x20, 0x25, 0x2B, 0x2D, 0x2E, 0x3A]) hF)

/-- The dotted form takes at most 16 bytes. -/
theorem length_string4_le {b : Bytes} (hb : b.length = 4) : (string4 b).length ≤ 16 := by
  have := length_join_le 0x2E (k := 3) (b.map fun c => decimal c.toNat) fun x hx => by
    obtain ⟨c, -, rfl⟩ := List.mem_map.1 hx
    exact length_decimal_le (by decide) (by have := toNat_lt_256 c; omega)
  simpa [string4, hb] using this

/-- `netip.ParseAddr` reads back the dotted form of a four-byte address. -/
theorem parseAddr_string4 {b : Bytes} (hb : b.length = 4) : parseAddr (string4 b) = some (.v4 b) := by
  have hdot : 0x2E ∈ string4 b := match b, hb with | [_, _, _, _], _ => mem_join_of_two
  have hu : ∀ y ∈ string4 b, (y == 0x2E || y == 0x3A || y == 0x25) = true → y = 0x2E := by
    intro y hy hp
    have := string4_free b y hy
    simp only [Bool.or_eq_true, beq_iff_eq] at hp
    rcases hp with (rfl | rfl) | rfl
    · rfl
    · exact absurd (by decide) this
    · exact absurd (by decide) this
  rw [parseAddr, find?_eq_of_unique hdot (by decide) hu]
  simp [parseIPv4_string4 hb]

/-- Two bytes read as a big-endian group and written back. -/
theorem putUint16_be16 (x y : UInt8) : putUint16 (x.toNat * 256 + y.toNat) = [x, y] := by
  have hx := toNat_lt_256 x; have hy := toNat_lt_256 y
  simp only [putUint16, List.cons.injEq, and_true]
  constructor <;> apply UInt8.toNat.inj <;> simp only [toNat_ofNat_UInt8] <;> omega

/-- A group of at most four hex digits reads back as its two bytes. -/
theorem parseHexGroup_hexGroup {v : Nat} (hv : v < 65536) : parseHexGroup (hexGroup v) = some (putUint16 v) := by
  have hall : (hexGroup v).all isHexDigit := List.all_eq_true.2 fun c hc => by
    obtain ⟨d, hd, rfl⟩ := mem_hexGroup hc
    exact (digitByte_facts hd).1
  rw [parseHexGroup, if_neg (by simp only [hall, hexGroup_ne_nil, Bool.not_true, Bool.false_eq_true, false_or, or_false, not_lt]; exact length_hexGroup_le (k := 4) (by decide) hv),
    hexGroup, List.foldl_map, foldl_toDigits (by decide) fun v d hd => by rw [(digitByte_facts hd).2.1]]

/-- The groups of an address are 16-bit values. -/
theorem groups6_lt {b : Bytes} {v : Nat} (hv : v ∈ groups6 b) : v < 65536 := by
  obtain ⟨i, -, rfl⟩ := List.mem_map.1 hv
  have := toNat_lt_256 (b.getD (2 * i) 0); have := toNat_lt_256 (b.getD (2 * i + 1) 0)
  omega

theorem length_groups6 (b : Bytes) : (groups6 b).length = 8 := by simp [groups6]

/-- The eight groups of sixteen bytes written back are the sixteen bytes. -/
theorem flatten_groups6 {b : Bytes} (hb : b.length = 16) : ((groups6 b).map putUint16).flatten = b := by
  match b, hb with
  | [b0, b1, b2, b3, b4, b5, b6, b7, b8, b9, b10, b11, b12, b13, b14, b15], _ =>
    simp [groups6, List.range_succ, putUint16_be16]

theorem length_flatten_putUint16 (l : List Nat) : ((l.map putUint16).flatten).length = 2 * l.length := by
  induction l with
  | nil => rfl
  | cons v l ih => simp only [List.map_cons, List.flatten_cons, List.length_append, ih, length_putUint16,
      List.length_cons]; omega

/-- Zero groups are zero bytes. -/
theorem flatten_putUint16_zeros (k : Nat) : ((List.replicate k 0).map putUint16).flatten = List.replicate (2 * k) 0 := by
  induction k with
  | zero => rfl
  | succ k ih => rw [List.replicate_succ, List.map_cons, List.flatten_cons, ih, show 2 * (k + 1) = 2 * k + 2 by omega]; rfl

/-- A `mapM` whose every step succeeds. -/
theorem mapM_map_some {α β γ : Type} {f : α → β} {g : β → Option γ} {h : α → γ} :
    ∀ {l : List α}, (∀ x ∈ l, g (f x) = some (h x)) → (l.map f).mapM g = some (l.map h)
  | [], _ => rfl
  | x :: l, hl => by
    simp only [List.map_cons, List.mapM_cons, hl x (List.mem_cons_self _ _),
      mapM_map_some fun y hy => hl y (List.mem_cons_of_mem _ hy)]
    rfl

/-- The run `zeroRun` picks: at least two groups, all zero, within the address. -/
theorem zeroRun_spec {g : List Nat} {i j : Nat} (h : zeroRun g = some (i, j)) :
    i + 2 ≤ j ∧ j ≤ g.length ∧ (g.drop i).take (j - i) = List.replicate (j - i) 0 := by
  let P : Option (Nat × Nat) → Prop := fun best => ∀ i j, best = some (i, j) →
    i + 2 ≤ j ∧ j = i + ((g.drop i).takeWhile (· == 0)).length
  have hstep : ∀ (l : List Nat) (best : Option (Nat × Nat)), P best → P (l.foldl (fun best i =>
      let j := i + ((g.drop i).takeWhile (· == 0)).length
      if 2 ≤ j - i ∧ best.elim 0 (fun r => r.2 - r.1) < j - i then some (i, j) else best) best) := by
    intro l
    induction l with
    | nil => exact fun _ h => h
    | cons k l ih =>
      intro best hb
      apply ih
      dsimp only
      split_ifs with hk
      · rintro i j ⟨⟩; exact ⟨by omega, rfl⟩
      · exact hb
  obtain ⟨hij, hj⟩ := hstep _ none (fun _ _ h => nomatch h) i j h
  have hpre := List.prefix_iff_eq_take.1 (List.takeWhile_prefix (· == (0 : Nat)) (l := g.drop i))
  have hlen : ((g.drop i).takeWhile (· == 0)).length = j - i := by omega
  have hle := (List.takeWhile_prefix (· == (0 : Nat)) (l := g.drop i)).length_le
  simp only [List.length_drop] at hle
  refine ⟨hij, by omega, ?_⟩
  rw [← hlen, ← hpre]
  exact List.eq_replicate_iff.2 ⟨rfl, fun x hx => by simpa using List.mem_takeWhile_imp hx⟩

/-- Text without a colon cannot hold the start of `::`. -/
theorem splitEllipsis_append {x : Bytes} (hx : 0x3A ∉ x) (t : Bytes) :
    splitEllipsis (x ++ t) = (splitEllipsis t).map fun p => (x ++ p.1, p.2) := by
  induction x with
  | nil => simp
  | cons a x ih =>
    have ha : a ≠ 0x3A := fun h => hx (h ▸ List.mem_cons_self _ _)
    rcases hxt : x ++ t with _ | ⟨b, rest⟩
    · obtain ⟨rfl, rfl⟩ := List.append_eq_nil.1 hxt; rfl
    · rw [List.cons_append, hxt, splitEllipsis, if_neg (fun h => ha h.1), ← hxt,
        ih (fun h => hx (List.mem_cons_of_mem _ h)), Option.map_map]
      rfl

/-- A colon followed by anything but a colon is not `::`. -/
theorem splitEllipsis_colon {t : Bytes} (ht : t.head? ≠ some 0x3A) :
    splitEllipsis (0x3A :: t) = (splitEllipsis t).map fun p => (0x3A :: p.1, p.2) := by
  rcases t with _ | ⟨b, rest⟩
  · rfl
  · rw [splitEllipsis, if_neg (fun h => ht (by simp [h.2]))]

/-- Colon-free, nonempty pieces joined on colons hold no `::`, and a `::` after them
is found where they end. -/
theorem splitEllipsis_join {xs : List Bytes} (hx : ∀ x ∈ xs, x ≠ [] ∧ 0x3A ∉ x) (hne : xs ≠ []) (u : Bytes) :
    splitEllipsis (join 0x3A xs ++ u) = (splitEllipsis u).map fun p => (join 0x3A xs ++ p.1, p.2) := by
  induction xs with
  | nil => exact absurd rfl hne
  | cons x rest ih =>
    rcases rest with _ | ⟨y, rest⟩
    · exact splitEllipsis_append (hx x (List.mem_cons_self _ _)).2 u
    · obtain ⟨hy, hy'⟩ := hx y (by simp)
      have hjoin : join 0x3A (x :: y :: rest) = x ++ 0x3A :: join 0x3A (y :: rest) := by
        rw [join]; exact List.cons_ne_nil _ _
      have hhead : (join 0x3A (y :: rest) ++ u).head? ≠ some 0x3A := by
        obtain ⟨c, cs, rfl⟩ := List.exists_cons_of_ne_nil hy
        rcases rest with _ | ⟨z, rest⟩
        · simp only [join, List.cons_append, List.head?_cons, ne_eq, Option.some.injEq]
          exact fun h => hy' (h ▸ List.mem_cons_self _ _)
        · rw [join]
          · simp only [List.cons_append, List.head?_cons, ne_eq, Option.some.injEq]
            exact fun h => hy' (h ▸ List.mem_cons_self _ _)
          · exact List.cons_ne_nil _ _
      rw [hjoin, List.append_assoc, splitEllipsis_append (hx x (List.mem_cons_self _ _)).2, List.cons_append,
        splitEllipsis_colon hhead, ih (fun z hz => hx z (List.mem_cons_of_mem _ hz)) (List.cons_ne_nil _ _)]
      simp [Option.map_map, Function.comp_def]

/-- Hex groups joined on colons, then a `::` or the end. -/
theorem splitEllipsis_hex {g : List Nat} (t : Bytes) :
    splitEllipsis (join 0x3A (g.map hexGroup) ++ 0x3A :: 0x3A :: t) = some (join 0x3A (g.map hexGroup), t) ∧
    splitEllipsis (join 0x3A (g.map hexGroup)) = none := by
  rcases g with _ | ⟨v, g⟩
  · exact ⟨rfl, rfl⟩
  have hx : ∀ x ∈ (v :: g).map hexGroup, x ≠ [] ∧ 0x3A ∉ x := fun x hx => by
    obtain ⟨w, -, rfl⟩ := List.mem_map.1 hx
    exact ⟨hexGroup_ne_nil _, fun h => hexGroup_free _ h (by simp)⟩
  have hne : (v :: g).map hexGroup ≠ [] := List.cons_ne_nil _ _
  refine ⟨?_, by simpa using splitEllipsis_join hx hne []⟩
  rw [splitEllipsis_join hx hne]
  simp [splitEllipsis]

/-- Hex groups joined on colons read back as their bytes, whether or not a dotted
tail is allowed. -/
theorem parseIPv6Fields_hex (tail : Bool) {g : List Nat} (hg : ∀ v ∈ g, v < 65536) :
    parseIPv6Fields tail (join 0x3A (g.map hexGroup)) = some (g.map putUint16).flatten := by
  rcases g with _ | ⟨v, g⟩
  · rfl
  have hfree : ∀ x ∈ (v :: g).map hexGroup, ∀ c ∈ x, c ∉ [0x0A, 0x20, 0x25, 0x2B, 0x2D, 0x2E, 0x3A] := by
    intro x hx
    obtain ⟨w, -, rfl⟩ := List.mem_map.1 hx
    exact hexGroup_free
  rw [parseIPv6Fields, List.map_cons, if_neg (join_ne_nil (hexGroup_ne_nil v) _), ← List.map_cons]
  dsimp only
  rw [split_join (fun x hx h => hfree x hx _ h (by simp)) (List.cons_ne_nil _ _), if_neg]
  · rw [mapM_map_some fun w hw => parseHexGroup_hexGroup (hg w hw)]
    rfl
  · rintro ⟨-, hdot⟩
    rw [List.getLast?_eq_getLast _ (by simp)] at hdot
    exact hfree _ (List.getLast_mem _) _ (List.elem_iff.1 hdot) (by simp)

/-- What `string6` writes holds no `.`, `%`, space or newline. -/
theorem string6_free (b : Bytes) : ∀ c ∈ string6 b, c ∉ [0x0A, 0x20, 0x25, 0x2E] := by
  have hj : ∀ g : List Nat, ∀ c ∈ join 0x3A (g.map hexGroup), c ∉ [0x0A, 0x20, 0x25, 0x2E] := by
    intro g c hc hF
    refine not_mem_join 0x3A (c := c) (by rintro rfl; exact absurd hF (by decide)) ?_ hc
    intro x hx hcx
    obtain ⟨w, -, rfl⟩ := List.mem_map.1 hx
    exact hexGroup_free c hcx ((by decide : ([0x0A, 0x20, 0x25, 0x2E] : Bytes) ⊆ [0x0A, 0x20, 0x25, 0x2B, 0x2D, 0x2E, 0x3A]) hF)
  unfold string6
  dsimp only
  split
  · intro c hc
    simp only [List.mem_append] at hc
    rcases hc with (hc | hc) | hc
    · exact hj _ c hc
    · simp [ascii] at hc; subst hc; decide
    · exact hj _ c hc
  · exact hj _

/-- The colon form takes at most 40 bytes. -/
theorem length_string6_le (b : Bytes) : (string6 b).length ≤ 40 := by
  have hk : ∀ g : List Nat, (∀ v ∈ g, v < 65536) → (join 0x3A (g.map hexGroup)).length ≤ 5 * g.length := by
    intro g hg
    simpa using length_join_le 0x3A (k := 4) (g.map hexGroup) fun x hx => by
      obtain ⟨v, hv, rfl⟩ := List.mem_map.1 hx
      exact length_hexGroup_le (by decide) (hg v hv)
  have hg : ∀ v ∈ groups6 b, v < 65536 := fun _ => groups6_lt
  have h8 := length_groups6 b
  unfold string6
  dsimp only
  split
  next i j hz =>
    obtain ⟨hij, hj, -⟩ := zeroRun_spec hz
    rw [h8] at hj
    have h1 := hk ((groups6 b).take i) fun v hv => hg v (List.mem_of_mem_take hv)
    have h2 := hk ((groups6 b).drop j) fun v hv => hg v (List.mem_of_mem_drop hv)
    simp only [List.length_take, List.length_drop, h8] at h1 h2
    simp only [List.length_append]
    have : (ascii "::").length = 2 := rfl
    omega
  next => have := hk _ hg; omega

/-- The colon form of sixteen bytes reads back as those bytes, without a zone. -/
theorem parseIPv6_string6 {b : Bytes} (hb : b.length = 16) : parseIPv6 (string6 b) = some (.v6 b []) := by
  have hpct : (string6 b).findIdx? (· == 0x25) = none := List.findIdx?_eq_none_iff.2 fun c hc => by
    have := string6_free b c hc
    simp only [List.mem_cons, not_or] at this
    simpa using this.2.2.1
  have hg : ∀ v ∈ groups6 b, v < 65536 := fun _ => groups6_lt
  rw [parseIPv6, hpct]
  dsimp only
  rw [if_neg (by simp)]
  rcases hz : zeroRun (groups6 b) with _ | ⟨i, j⟩
  · have hs : string6 b = join 0x3A ((groups6 b).map hexGroup) := by
      unfold string6; dsimp only; rw [hz]
    rw [hs, (splitEllipsis_hex (g := groups6 b) []).2]
    simp [parseIPv6Fields_hex true hg, flatten_groups6 hb, hb]
  · obtain ⟨hij, hj, hzero⟩ := zeroRun_spec hz
    have hs : string6 b = join 0x3A (((groups6 b).take i).map hexGroup) ++
        0x3A :: 0x3A :: join 0x3A (((groups6 b).drop j).map hexGroup) := by
      unfold string6; dsimp only; rw [hz]; exact List.append_assoc _ _ _
    have hlen := length_groups6 b
    have hsplit : groups6 b = (groups6 b).take i ++ List.replicate (j - i) 0 ++ (groups6 b).drop j := by
      conv_lhs => rw [← List.take_append_drop i (groups6 b), ← List.take_append_drop (j - i) ((groups6 b).drop i)]
      rw [hzero, List.drop_drop, Nat.add_sub_cancel' (by omega : i ≤ j), List.append_assoc]
    have hbytes : (((groups6 b).take i).map putUint16).flatten ++ List.replicate (2 * (j - i)) 0 ++
        (((groups6 b).drop j).map putUint16).flatten = b := by
      conv_rhs => rw [← flatten_groups6 hb, hsplit]
      simp only [List.map_append, List.flatten_append, flatten_putUint16_zeros]
    rw [hs, (splitEllipsis_hex _).1]
    dsimp only
    rw [parseIPv6Fields_hex false fun v hv => hg v (List.mem_of_mem_take hv),
      parseIPv6Fields_hex true fun v hv => hg v (List.mem_of_mem_drop hv), (splitEllipsis_hex []).2]
    simp only [length_flatten_putUint16, List.length_take, List.length_drop, hlen, Option.isSome_none,
      Bool.false_eq_true, false_or, Option.getD_none]
    show (if 14 < _ then none else some _) = _
    simp only [length_flatten_putUint16, List.length_take, List.length_drop, hlen]
    rw [if_neg (by omega), show 16 - 2 * min i 8 - 2 * (8 - j) = 2 * (j - i) by omega, hbytes]

/-- `netip.ParseAddr` reads back the colon form of a sixteen-byte address, without a zone. -/
theorem parseAddr_string6 {b : Bytes} (hb : b.length = 16) : parseAddr (string6 b) = some (.v6 b []) := by
  have hcolon : 0x3A ∈ string6 b := by
    unfold string6
    dsimp only
    split
    · exact List.mem_append_left _ (List.mem_append_right _ (by decide))
    · have h8 : ((groups6 b).map hexGroup).length = 8 := by simp [length_groups6]
      rcases hm : (groups6 b).map hexGroup with _ | ⟨x, _ | ⟨y, rest⟩⟩ <;> rw [hm] at h8
      · simp at h8
      · simp at h8
      · exact mem_join_of_two
  have hu : ∀ y ∈ string6 b, (y == 0x2E || y == 0x3A || y == 0x25) = true → y = 0x3A := by
    intro y hy hp
    have := string6_free b y hy
    simp only [Bool.or_eq_true, beq_iff_eq] at hp
    rcases hp with (rfl | rfl) | rfl
    · exact absurd (by decide) this
    · rfl
    · exact absurd (by decide) this
  rw [parseAddr, find?_eq_of_unique hcolon (by decide) hu]
  exact parseIPv6_string6 hb

/-- `net.IP.String` of a four-byte address is its dotted form. -/
theorem IP.string_of_length4 {ip : IP} (h : ip.bytes.length = 4) : ip.string = string4 ip.bytes := by
  simp [IP.string, IP.to4, h]

/-- `net.IP.String` of a sixteen-byte address that is not an IPv4 one is its colon form. -/
theorem IP.string_of_to4 {ip : IP} (h : ip.bytes.length = 16) (h4 : ip.to4 = none) : ip.string = string6 ip.bytes := by
  simp [IP.string, h, h4]

end ProxyProto
