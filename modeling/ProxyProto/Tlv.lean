import ProxyProto.Wire

/-!
# The Type-Length-Value vector of version 2

`splitTLVs` walks a vector record by record: a type byte, a big-endian length,
then that many value bytes. `NOOP` records are dropped. `joinTLVs` writes the
records back. The two are inverse on every list whose values fit a 16-bit
length, up to the dropped padding (`splitTLVs_joinTLVs`), and on every vector
without padding (`joinTLVs_splitTLVs`).

The source walks the vector with an index; `splitTLVsIndexed` is that loop with
Go's bounds checks, and it equals the record-by-record split on every vector
(`splitTLVsIndexed_eq`): it never indexes outside the vector, and it succeeds
exactly on the concatenations of records.

## Implementation notes

`SplitTLVs` copies values of at most 16 bytes and aliases longer ones into the
input slice; both give the same bytes, which is all a list records.
-/

namespace ProxyProto

/-- `PP2_TYPE_NOOP`, the padding record. -/
def PP2_TYPE_NOOP : UInt8 := 0x04

/-- `TLV`: one uninterpreted record. -/
structure TLV where
  type : UInt8
  value : Bytes
  deriving DecidableEq, Repr

/-- `SplitTLVs` read record by record: the records of `raw` in order, `NOOP`
records dropped. `splitTLVsIndexed` below is the index loop the source runs. -/
def splitTLVs : Bytes → Except Error (List TLV)
  | [] => .ok []
  | [_] | [_, _] => .error .truncatedTLV
  | t :: hi :: lo :: rest =>
    if rest.length < be16 hi lo then .error .truncatedTLV
    else
      match splitTLVs (rest.drop (be16 hi lo)) with
      | .error e => .error e
      | .ok tlvs => .ok (if t = PP2_TYPE_NOOP then tlvs else ⟨t, rest.take (be16 hi lo)⟩ :: tlvs)
termination_by raw => raw.length

/-- The wire form of one record: type, `byte(len >> 8)`, `byte(len)`, value. -/
def TLV.encode (t : TLV) : Bytes :=
  t.type :: UInt8.ofNat (t.value.length / 256) :: UInt8.ofNat t.value.length :: t.value

/-- `JoinTLVs`: the records written back to back, refusing a value longer than 65535 bytes. -/
def joinTLVs (tlvs : List TLV) : Except Error Bytes :=
  match tlvs.find? (fun t => 65535 < t.value.length) with
  | some t => .error (.cannotFormatTLV t.type t.value.length)
  | none => .ok (tlvs.flatMap TLV.encode)

/-- `Registered`: one of the types the protocol assigns. -/
def TLV.registered (p : UInt8) : Bool :=
  p ∈ [0x01, 0x02, 0x03, 0x04, 0x05, 0x20, 0x21, 0x22, 0x23, 0x24, 0x25, 0x30]

/-- `App`: reserved for application specific data. -/
def TLV.app (p : UInt8) : Bool := 0xE0 ≤ p && p ≤ 0xEF

/-- `Experiment`: reserved for experiments. -/
def TLV.experiment (p : UInt8) : Bool := 0xF0 ≤ p && p ≤ 0xF7

/-- `Future`: reserved for future use. -/
def TLV.future (p : UInt8) : Bool := 0xF8 ≤ p

/-- `Spec`: covered by the protocol. -/
def TLV.spec (p : UInt8) : Bool := registered p || app p || experiment p || future p

/-- A vector is padded when it is the join of a list holding a `NOOP` record. -/
def HasNoopRecord (raw : Bytes) : Prop :=
  ∃ tlvs, joinTLVs tlvs = .ok raw ∧ ∃ t ∈ tlvs, t.type = PP2_TYPE_NOOP

/-- `joinTLVs` succeeds exactly on lists whose values fit a 16-bit length. -/
theorem joinTLVs_eq_ok {tlvs : List TLV} {raw : Bytes} :
    joinTLVs tlvs = .ok raw ↔
      (∀ t ∈ tlvs, t.value.length ≤ 65535) ∧ tlvs.flatMap TLV.encode = raw := by
  unfold joinTLVs
  split
  · next t ht =>
    have := List.find?_some ht
    have := List.mem_of_find?_eq_some ht
    simp only [decide_eq_true_eq] at *
    exact ⟨nofun, fun h => absurd (h.1 t ‹_›) (by omega)⟩
  · next hn =>
    have := List.find?_eq_none.mp hn
    simp only [decide_eq_true_eq, not_lt, Except.ok.injEq] at *
    exact ⟨fun h => ⟨this, h⟩, fun h => h.2⟩

/-- One record in front of a vector: the split reads it and goes on with the rest. -/
theorem splitTLVs_encode (t : TLV) (rest : Bytes) (ht : t.value.length ≤ 65535) :
    splitTLVs (t.encode ++ rest) =
      match splitTLVs rest with
      | .error e => .error e
      | .ok tlvs => .ok (if t.type = PP2_TYPE_NOOP then tlvs else t :: tlvs) := by
  have hlen : be16 (UInt8.ofNat (t.value.length / 256)) (UInt8.ofNat t.value.length) =
      t.value.length := by rw [be16_putUint16]; omega
  rw [TLV.encode, List.cons_append, List.cons_append, List.cons_append, splitTLVs, hlen]
  simp

/-- Splitting a joined list gives the list back without its `NOOP` records. -/
theorem splitTLVs_joinTLVs (tlvs : List TLV) (h : ∀ t ∈ tlvs, t.value.length ≤ 65535) :
    (joinTLVs tlvs >>= splitTLVs) = .ok (tlvs.filter fun t => t.type ≠ PP2_TYPE_NOOP) := by
  rw [(joinTLVs_eq_ok.mpr ⟨h, rfl⟩ : joinTLVs tlvs = _)]
  show splitTLVs _ = _
  induction tlvs with
  | nil => simp [splitTLVs]
  | cons t tlvs ih =>
    rw [List.flatMap_cons, splitTLVs_encode t _ (h t (by simp)), ih (fun u hu => h u (by simp [hu]))]
    by_cases hn : t.type = PP2_TYPE_NOOP <;> simp [hn, List.filter_cons]

/-- A vector the split accepts is the join of its records, `NOOP` ones included. -/
theorem splitTLVs_records (raw : Bytes) (tlvs : List TLV) (h : splitTLVs raw = .ok tlvs) :
    ∃ all : List TLV, joinTLVs all = .ok raw ∧
      tlvs = all.filter fun t => t.type ≠ PP2_TYPE_NOOP := by
  induction raw using splitTLVs.induct generalizing tlvs with
  | case1 => exact ⟨[], rfl, by simp [splitTLVs] at h; simp [h]⟩
  | case2 => simp [splitTLVs] at h
  | case3 => simp [splitTLVs] at h
  | case4 t hi lo rest hlt => simp [splitTLVs, hlt] at h
  | case5 t hi lo rest hlt e he => simp [splitTLVs, hlt, he] at h
  | case6 t hi lo rest hlt tail htail ih =>
    simp only [splitTLVs, hlt, htail, if_false, Except.ok.injEq] at h
    obtain ⟨all, hall, rfl⟩ := ih tail htail
    obtain ⟨hfit, hall⟩ := joinTLVs_eq_ok.mp hall
    subst h
    have hle : be16 hi lo ≤ 65535 := by have := be16_lt hi lo; omega
    have hv : (rest.take (be16 hi lo)).length = be16 hi lo := by simp; omega
    refine ⟨⟨t, rest.take (be16 hi lo)⟩ :: all, joinTLVs_eq_ok.mpr ⟨?_, ?_⟩, ?_⟩
    · simpa [hv, hle] using hfit
    · have hb : UInt8.ofNat (be16 hi lo / 256) = hi ∧ UInt8.ofNat (be16 hi lo) = lo := by
        have := toNat_lt_256 hi; have := toNat_lt_256 lo
        constructor <;> apply UInt8.toNat.inj <;> simp [be16] <;> omega
      simp [TLV.encode, hv, hb, hall]
    · by_cases hn : t = PP2_TYPE_NOOP <;> simp [hn, List.filter_cons]

/-- Joining the records of an unpadded vector gives the vector back. -/
theorem joinTLVs_splitTLVs (raw : Bytes) (tlvs : List TLV) (h : splitTLVs raw = .ok tlvs)
    (hn : ¬ HasNoopRecord raw) : joinTLVs tlvs = .ok raw := by
  obtain ⟨all, hall, rfl⟩ := splitTLVs_records raw tlvs h
  have hall' : all.filter (fun t => t.type ≠ PP2_TYPE_NOOP) = all :=
    List.filter_eq_self.mpr fun t ht => by
      simpa using fun hno => hn ⟨all, hall, t, ht, hno⟩
  rw [hall', hall]

/-- `SplitTLVs` and `JoinTLVs` are inverse: up to the dropped padding on lists
that fit, and exactly on unpadded vectors. -/
theorem tlv_round_trip :
    (∀ tlvs : List TLV, (∀ t ∈ tlvs, t.value.length ≤ 65535) →
      (joinTLVs tlvs >>= splitTLVs) = .ok (tlvs.filter fun t => t.type ≠ PP2_TYPE_NOOP)) ∧
    (∀ raw tlvs, splitTLVs raw = .ok tlvs → ¬ HasNoopRecord raw → joinTLVs tlvs = .ok raw) :=
  ⟨splitTLVs_joinTLVs, joinTLVs_splitTLVs⟩

theorem tlv_round_trip_noop :
    (∀ t ∈ [(⟨0x01, [0x41]⟩ : TLV), ⟨PP2_TYPE_NOOP, [0, 0]⟩], t.value.length ≤ 65535) ∧
    (joinTLVs [⟨0x01, [0x41]⟩, ⟨PP2_TYPE_NOOP, [0, 0]⟩] >>= splitTLVs) =
      .ok ([⟨0x01, [0x41]⟩, ⟨PP2_TYPE_NOOP, [0, 0]⟩].filter fun t => t.type ≠ PP2_TYPE_NOOP) :=
  ⟨by decide, tlv_round_trip.1 _ (by decide)⟩

/-! ### The index loop of `SplitTLVs` -/

/-- `raw[i:j]`, or `none` where Go's slice expression panics. -/
def goSlice (raw : Bytes) (i j : Nat) : Option Bytes :=
  if i ≤ j ∧ j ≤ raw.length then some ((raw.drop i).take (j - i)) else none

/-- The `for i := 0; i < len(raw);` loop of `SplitTLVs`, with the records kept so
far; `none` is an index-out-of-range panic. -/
def splitTLVsLoop (raw : Bytes) (i : Nat) (tlvs : List TLV) : Option (Except Error (List TLV)) :=
  if i < raw.length then
    if raw.length - i < 3 then some (.error .truncatedTLV)
    else
      match raw[i]?, raw[i + 1]?, raw[i + 2]? with
      | some t, some hi, some lo =>
        let tlvLen := hi.toNat <<< 8 ||| lo.toNat
        if raw.length < i + 3 + tlvLen then some (.error .truncatedTLV)
        else if t ≠ PP2_TYPE_NOOP then
          match goSlice raw (i + 3) (i + 3 + tlvLen) with
          | some v => splitTLVsLoop raw (i + 3 + tlvLen) (tlvs ++ [⟨t, v⟩])
          | none => none
        else splitTLVsLoop raw (i + 3 + tlvLen) tlvs
      | _, _, _ => none
  else some (.ok tlvs)
termination_by raw.length - i

/-- `SplitTLVs` as the source runs it; `none` is a panic. -/
def splitTLVsIndexed (raw : Bytes) : Option (Except Error (List TLV)) :=
  if raw.length = 0 then some (.ok []) else splitTLVsLoop raw 0 []

/-- `int(hi) << 8 | int(lo)` is the big-endian value. -/
theorem shiftLeft_or_eq_be16 (hi lo : UInt8) : hi.toNat <<< 8 ||| lo.toNat = be16 hi lo := by
  rw [Nat.shiftLeft_eq, Nat.mul_comm, ← Nat.mul_add_lt_is_or (toNat_lt_256 lo), be16, Nat.mul_comm]

/-- The index loop from `i` splits what is left of the vector, after the records
already kept. -/
theorem splitTLVsLoop_eq (raw : Bytes) (i : Nat) (tlvs : List TLV) :
    splitTLVsLoop raw i tlvs = some ((splitTLVs (raw.drop i)).map (tlvs ++ ·)) := by
  rw [splitTLVsLoop]
  have hat : ∀ j, raw[i + j]? = (raw.drop i)[j]? := fun j => (List.getElem?_drop raw i j).symm
  have hlen : (raw.drop i).length = raw.length - i := List.length_drop i raw
  rcases hd : raw.drop i with _ | ⟨t, _ | ⟨hi, _ | ⟨lo, rest⟩⟩⟩ <;> rw [hd] at hat hlen
  case nil =>
    rw [if_neg (by simp at hlen; omega)]
    simp [splitTLVs, Except.map]
  case cons.nil | cons.cons.nil =>
    simp only [List.length_cons, List.length_nil] at hlen
    rw [if_pos (by omega), if_pos (by omega)]
    simp [splitTLVs, Except.map]
  case cons.cons.cons =>
    simp only [List.length_cons] at hlen
    have hrest : raw.drop (i + 3) = rest := by rw [← List.drop_drop, hd]; rfl
    have hnext : raw.drop (i + 3 + be16 hi lo) = rest.drop (be16 hi lo) := by
      rw [← List.drop_drop, hrest]
    have h0 : raw[i]? = some t := by simpa using hat 0
    rw [if_pos (by omega), if_neg (by omega), h0, hat 1, hat 2]
    simp only [List.getElem?_cons_succ, List.getElem?_cons_zero, shiftLeft_or_eq_be16]
    rw [splitTLVs]
    by_cases hlt : rest.length < be16 hi lo
    · rw [if_pos (by omega), if_pos hlt]; rfl
    rw [if_neg (by omega), if_neg hlt]
    by_cases hn : t = PP2_TYPE_NOOP
    · rw [if_neg (not_not.2 hn), splitTLVsLoop_eq, hnext]
      cases splitTLVs (rest.drop (be16 hi lo)) <;> simp [Except.map, hn]
    · have hv : goSlice raw (i + 3) (i + 3 + be16 hi lo) = some (rest.take (be16 hi lo)) := by
        simp only [goSlice, hrest]; rw [if_pos (by omega)]; simp
      rw [if_pos hn, hv]
      dsimp only
      rw [splitTLVsLoop_eq, hnext]
      cases splitTLVs (rest.drop (be16 hi lo)) <;> simp [Except.map, hn]
termination_by raw.length - i
decreasing_by
  all_goals
    have := congrArg List.length hd
    simp only [List.length_drop, List.length_cons] at this
    omega

/-- `SplitTLVs` never panics, and returns the record-by-record split. -/
theorem splitTLVsIndexed_eq (raw : Bytes) : splitTLVsIndexed raw = some (splitTLVs raw) := by
  unfold splitTLVsIndexed
  split_ifs with h
  · simp [List.length_eq_zero.1 h, splitTLVs]
  · rw [splitTLVsLoop_eq, List.drop_zero]
    cases splitTLVs raw <;> simp [Except.map]

/-- The split fails only with `ErrTruncatedTLV`. -/
theorem splitTLVs_error {raw : Bytes} {e : Error} (h : splitTLVs raw = .error e) :
    e = .truncatedTLV := by
  induction raw using splitTLVs.induct generalizing e with
  | case1 => simp [splitTLVs] at h
  | case2 | case3 => simpa [splitTLVs, eq_comm] using h
  | case4 t hi lo rest hlt => simpa [splitTLVs, hlt, eq_comm] using h
  | case5 t hi lo rest hlt e' he ih =>
    simp only [splitTLVs, hlt, he, if_false, Except.error.injEq] at h
    exact h ▸ ih he
  | case6 t hi lo rest hlt tail htail => simp [splitTLVs, hlt, htail] at h

/-- `SplitTLVs` indexes only inside `raw`, and succeeds exactly on the
concatenations of records, returning the records that are not `NOOP`, in order;
otherwise it fails with `ErrTruncatedTLV`. -/
theorem splitTLVsIndexed_iff (raw : Bytes) :
    (splitTLVsIndexed raw = some (.error .truncatedTLV) ∨
      ∃ tlvs, splitTLVsIndexed raw = some (.ok tlvs)) ∧
    ∀ tlvs, splitTLVsIndexed raw = some (.ok tlvs) ↔
      ∃ all : List TLV, (∀ t ∈ all, t.value.length ≤ 65535) ∧ all.flatMap TLV.encode = raw ∧
        tlvs = all.filter fun t => t.type ≠ PP2_TYPE_NOOP := by
  simp only [splitTLVsIndexed_eq, Option.some.injEq]
  refine ⟨?_, fun tlvs => ⟨fun h => ?_, ?_⟩⟩
  · cases h : splitTLVs raw with
    | error e => exact .inl (by rw [splitTLVs_error h])
    | ok tlvs => exact .inr ⟨tlvs, rfl⟩
  · obtain ⟨all, hall, rfl⟩ := splitTLVs_records raw tlvs h
    exact ⟨all, (joinTLVs_eq_ok.1 hall).1, (joinTLVs_eq_ok.1 hall).2, rfl⟩
  · rintro ⟨all, hfit, rfl, rfl⟩
    have := splitTLVs_joinTLVs all hfit
    rwa [joinTLVs_eq_ok.2 ⟨hfit, rfl⟩] at this

end ProxyProto
