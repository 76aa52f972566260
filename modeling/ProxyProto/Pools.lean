import ProxyProto.Conn
import ProxyProto.V2RoundTrip

/-!
# The pools

`parseVersion1` takes its line buffer from `bufferPool`, `formatVersion2` the two
108-byte slices of a Unix header from `unixAddrPool`, and `NewConn` its
`bufio.Reader` from `readerPool`. Each pooled function is modelled beside the
function of the same name that allocates afresh, and the pools' states earlier
calls can leave are the states `Pools.Reachable` builds.

`putBuffer` cuts a buffer to length zero and `getReader` resets the reader, so a
pooled `parseVersion1` and a pooled `NewConn` behave as the fresh ones from every
reachable state (`parseVersion1Pooled_eq`, `newConnPooled_eq`). A pooled
`formatVersion2` that returns returns what the fresh one does
(`formatVersion2Pooled_eq`): the slice is zero-filled past the name. But
`putUnixAddrSlice` puts back a slice header read at the address of its local
pointer `bufPtr`, so the next `getUnixAddrSlice` slices a header whose length and
capacity are the two words that follow `bufPtr` in memory.

## Implementation notes

`sync.Pool.Get` returns any item of the pool, or a new one: a `Get` here takes the
item at an index it is given, or a new one past the pool's end. The collector may
drop any cached item (`Pools.Reachable.collect`). The bytes of a buffer beyond a
slice's length are not followed for `bufferPool` and `readerPool`, where no code
reads them. The backing arrays of `unixAddrPool` are followed. Where
`putUnixAddrBuffer` zeroes past the end of an array it writes into memory the
model does not hold, and the run stops there.
-/

namespace ProxyProto

/-! ### `bufferPool` -/

/-- A `*[]byte` of `bufferPool`: the backing array and the slice's length. -/
structure PooledBuffer where
  array : Bytes
  len : Nat
  deriving DecidableEq, Repr

/-- `bufferPool.New`: an empty slice of capacity 128. -/
def PooledBuffer.new : PooledBuffer := ⟨List.replicate 128 0, 0⟩

/-- `getBuffer`: the `i`th buffer of the pool, or a new one past its end. -/
def getBuffer (pool : List PooledBuffer) (i : Nat) : PooledBuffer × List PooledBuffer :=
  match pool[i]? with
  | some b => (b, pool.eraseIdx i)
  | none => (.new, pool)

/-- `putBuffer`: the slice cut to length zero and put back. -/
def putBuffer (b : PooledBuffer) (pool : List PooledBuffer) : List PooledBuffer :=
  { b with len := 0 } :: pool

/-- `parseVersion1` with its line buffer from `bufferPool`: it appends the line to
the slice it gets, stores the line in the pool's pointer once it is read, and puts
the buffer back. -/
def parseVersion1Pooled (pool : List PooledBuffer) (i : Nat) (b : BufReader) (s : Socket) :
    (Except Error Header × BufReader × Socket) × List PooledBuffer :=
  match getBuffer pool i with
  | (pb, pool) =>
    match readLine 107 (pb.array.take pb.len) b s with
    | (.error e, b, s) => ((.error e, b, s), putBuffer pb pool)
    | (.ok buf, b, s) =>
      ((parseV1Line buf, b, s), putBuffer ⟨buf ++ pb.array.drop buf.length, buf.length⟩ pool)

section BufferPool

variable {pool : List PooledBuffer}

theorem getBuffer_len (hp : ∀ b ∈ pool, b.len = 0) (i : Nat) :
    (getBuffer pool i).1.len = 0 ∧ ∀ b ∈ (getBuffer pool i).2, b.len = 0 := by
  unfold getBuffer
  split
  next b hb => exact ⟨hp b (List.getElem?_mem hb), fun b h => hp b (List.mem_of_mem_eraseIdx h)⟩
  next => exact ⟨rfl, hp⟩

/-- From a pool of empty slices, the pooled `parseVersion1` returns what the fresh
one does, and leaves the pool's slices empty. -/
theorem parseVersion1Pooled_eq (hp : ∀ b ∈ pool, b.len = 0) (i : Nat) (b : BufReader) (s : Socket) :
    (parseVersion1Pooled pool i b s).1 = parseVersion1 b s ∧
      ∀ pb ∈ (parseVersion1Pooled pool i b s).2, pb.len = 0 := by
  obtain ⟨h0, hrest⟩ := getBuffer_len hp i
  unfold parseVersion1Pooled parseVersion1
  generalize getBuffer pool i = g at h0 hrest
  obtain ⟨pb, rest⟩ := g
  dsimp only at h0 hrest ⊢
  rw [h0, List.take_zero]
  rcases readLine 107 [] b s with ⟨_ | _, _, _⟩ <;> exact ⟨rfl, by simpa [putBuffer] using hrest⟩

end BufferPool

/-! ### `readerPool` -/

/-- `bufio.Reader.Reset`: the buffered bytes and the error dropped, the size kept. -/
def BufReader.reset (br : BufReader) : BufReader := ⟨[], br.size, none, br.minReadBufferSize_le⟩

/-- `getReader(conn)`: the `i`th reader of `readerPool`, or past its end a new one
of `size` bytes (`readerPool.New`), reset to read from the connection. -/
def getReader (pool : List BufReader) (i size : Nat) : BufReader × List BufReader :=
  match pool[i]? with
  | some br => (br.reset, pool.eraseIdx i)
  | none => ((BufReader.newReaderSize size).reset, pool)

/-- `putReader`: the reader reset and put back. -/
def putReader (br : BufReader) (pool : List BufReader) : List BufReader := br.reset :: pool

/-- `NewConn` with its reader from `readerPool`. -/
def newConnPooled (pool : List BufReader) (i size : Nat) (conn : Socket) (opts : List ConnOption) :
    Conn × List BufReader :=
  match getReader pool i size with
  | (br, pool) =>
    (opts.foldl ConnOption.apply ⟨0, false, none, conn, some br, .multi [.bufReader, .conn], none, .USE, none, 0⟩,
      pool)

section ReaderPool

variable {pool : List BufReader} {size : Nat}

theorem reset_eq_newReaderSize {br : BufReader} (h : br.size = (BufReader.newReaderSize size).size) :
    br.reset = BufReader.newReaderSize size := by
  obtain ⟨_, _, _, _⟩ := br
  cases h
  rfl

theorem getReader_eq (hp : ∀ br ∈ pool, br.size = (BufReader.newReaderSize size).size) (i : Nat) :
    (getReader pool i size).1 = BufReader.newReaderSize size ∧
      ∀ br ∈ (getReader pool i size).2, br.size = (BufReader.newReaderSize size).size := by
  unfold getReader
  split
  next br hbr => exact ⟨reset_eq_newReaderSize (hp br (List.getElem?_mem hbr)),
    fun b h => hp b (List.mem_of_mem_eraseIdx h)⟩
  next => exact ⟨rfl, hp⟩

/-- From a pool of readers of the size `NewConn` makes, the pooled `NewConn` is
the fresh one, and the pool keeps readers of that size. -/
theorem newConnPooled_eq (hp : ∀ br ∈ pool, br.size = (BufReader.newReaderSize size).size) (i : Nat)
    (conn : Socket) (opts : List ConnOption) :
    (newConnPooled pool i size conn opts).1 = newConn size conn opts ∧
      ∀ br ∈ (newConnPooled pool i size conn opts).2, br.size = (BufReader.newReaderSize size).size := by
  obtain ⟨h1, h2⟩ := getReader_eq hp i
  unfold newConnPooled
  generalize getReader pool i size = g at h1 h2
  obtain ⟨br, rest⟩ := g
  dsimp only at h1 h2 ⊢
  exact ⟨by rw [h1]; rfl, h2⟩

end ReaderPool

/-! ### `unixAddrPool` -/

/-- A `[]byte` slice header: the backing array it points to, its length and its capacity. -/
structure SliceHeader where
  array : Nat
  len : Nat
  cap : Nat
  deriving DecidableEq, Repr

/-- `unixAddrPool` and the backing arrays it allocates: the bytes of each array,
the next array `unixAddrPool.New` allocates, and the slice headers the pool holds. -/
structure UnixAddrPool where
  heap : Nat → Bytes
  next : Nat
  pool : List SliceHeader

namespace UnixAddrPool

/-- The pool before any call. -/
def empty : UnixAddrPool := ⟨fun _ => List.replicate 108 0, 0, []⟩

/-- `getUnixAddrBuffer`: the `i`th slice of the pool, or past the pool's end a new
108-byte one (`unixAddrPool.New`). -/
def getUnixAddrBuffer (u : UnixAddrPool) (i : Nat) : SliceHeader × UnixAddrPool :=
  match u.pool[i]? with
  | some h => (h, { u with pool := u.pool.eraseIdx i })
  | none => (⟨u.next, 108, 108⟩,
      { u with heap := Function.update u.heap u.next (List.replicate 108 0), next := u.next + 1 })

/-- `getUnixAddrSlice`: `(*bufPtr)[:108]`, a panic (`none`) past the capacity. -/
def getUnixAddrSlice (u : UnixAddrPool) (i : Nat) : Option (SliceHeader × UnixAddrPool) :=
  match u.getUnixAddrBuffer i with
  | (h, u) => if 108 ≤ h.cap then some ({ h with len := 108 }, u) else none

/-- The bytes of a slice. -/
def bytes (u : UnixAddrPool) (s : SliceHeader) : Bytes := (u.heap s.array).take s.len

/-- `formatUnixNameZeroCopy` on a pooled slice: the name copied in and the rest of
the slice zeroed. -/
def formatUnixNameZeroCopy (u : UnixAddrPool) (i : Nat) (name : Bytes) : Option (SliceHeader × UnixAddrPool) :=
  match u.getUnixAddrSlice i with
  | none => none
  | some (s, u) =>
    let filled := ProxyProto.formatUnixNameZeroCopy name ++ (u.heap s.array).drop 108
    some (s, { u with heap := Function.update u.heap s.array filled })

/-- `putUnixAddrBuffer`: the slice's bytes zeroed and its header put back. Zeroing
past the end of the array writes outside it (`none`). -/
def putUnixAddrBuffer (u : UnixAddrPool) (h : SliceHeader) : Option UnixAddrPool :=
  if h.len ≤ (u.heap h.array).length then
    let zeroed := List.replicate h.len 0 ++ (u.heap h.array).drop h.len
    some { u with heap := Function.update u.heap h.array zeroed, pool := h :: u.pool }
  else none

/-- `putUnixAddrSlice`: the header it puts back is read at the address of its local
pointer `bufPtr`, an eight-byte variable, as a 24-byte slice header. It points to
the slice's array, and its length and capacity are the two words `after` that
follow `bufPtr` in memory. -/
def putUnixAddrSlice (u : UnixAddrPool) (s : SliceHeader) (after : Nat × Nat) : Option UnixAddrPool :=
  if 108 ≤ s.cap then u.putUnixAddrBuffer ⟨s.array, after.1, after.2⟩ else some u

end UnixAddrPool

/-- What a pooled `formatVersion2` meets in `unixAddrPool`: the items its two `Get`s
take, and the words that follow `bufPtr` at its two `putUnixAddrSlice`s. -/
structure UnixCalls where
  srcGet : Nat
  dstGet : Nat
  srcAfter : Nat × Nat
  dstAfter : Nat × Nat

/-- `formatVersion2` with the slices of a Unix header from `unixAddrPool`, put back
by the deferred call once the result is built; a panic or a write outside the
arrays is `none`. The other families do not touch the pool. -/
def formatVersion2Pooled (u : UnixAddrPool) (k : UnixCalls) (header : Header) :
    Option (Except Error Bytes × UnixAddrPool) :=
  let tp := header.transportProtocol
  if tp.isIPv4 ∨ tp.isIPv6 ∨ ¬tp.isUnix then some (formatVersion2 header, u)
  else
    match header.unixAddrs with
    | none => some (.error .invalidAddress, u)
    | some ((_, src), (_, dst)) =>
      match u.formatUnixNameZeroCopy k.srcGet src with
      | none => none
      | some (addrSrc, u) =>
        match u.formatUnixNameZeroCopy k.dstGet dst with
        | none => none
        | some (addrDst, u) =>
          let result : Except Error Bytes :=
            match familyLength lengthUnix header.rawTLVs.length with
            | .error e => .error e
            | .ok len =>
              .ok (SIGV2 ++ [header.command.toByte, tp.toByte] ++ putUint16 len ++ u.bytes addrSrc ++
                u.bytes addrDst ++ portBytes header ++ header.rawTLVs)
          match u.putUnixAddrSlice addrSrc k.srcAfter with
          | none => none
          | some u => (u.putUnixAddrSlice addrDst k.dstAfter).map (result, ·)

/-- Taking out the item at an index takes its key out of a list of distinct keys. -/
theorem not_mem_map_eraseIdx {α β : Type} {f : α → β} :
    ∀ {l : List α} {i : Nat} {x : α}, (l.map f).Nodup → l[i]? = some x → f x ∉ (l.eraseIdx i).map f
  | a :: l, 0, x, hn, hx => by
    rw [List.getElem?_cons_zero, Option.some.injEq] at hx
    subst hx
    exact (List.nodup_cons.1 hn).1
  | a :: l, i + 1, x, hn, hx => by
    rw [List.getElem?_cons_succ] at hx
    rw [List.map_cons, List.nodup_cons] at hn
    simp only [List.eraseIdx_cons_succ, List.map_cons, List.mem_cons, not_or]
    exact ⟨fun h => hn.1 (h ▸ List.mem_map_of_mem f (List.getElem?_mem hx)), not_mem_map_eraseIdx hn.2 hx⟩

namespace UnixAddrPool

/-- The slice headers of the pool point to distinct arrays already allocated, and
every array holds 108 bytes. -/
structure WF (u : UnixAddrPool) : Prop where
  nodup : (u.pool.map SliceHeader.array).Nodup
  allocated : ∀ h ∈ u.pool, h.array < u.next
  length : ∀ a, (u.heap a).length = 108

/-- A slice a call holds: its array is allocated and not in the pool. -/
def Holds (u : UnixAddrPool) (s : SliceHeader) : Prop :=
  s.array < u.next ∧ s.array ∉ u.pool.map SliceHeader.array

theorem empty_wf : empty.WF := ⟨List.nodup_nil, nofun, fun _ => List.length_replicate _ _⟩

section Spec

variable {u u' : UnixAddrPool} {s : SliceHeader}

/-- A `Get` hands out a slice the pool no longer holds, and leaves the slices the
call already holds, and their bytes, as they were. -/
theorem getUnixAddrBuffer_spec (hu : u.WF) (hg : u.getUnixAddrBuffer i = (s, u')) :
    u'.WF ∧ u'.Holds s ∧ ∀ t, u.Holds t → u'.Holds t ∧ t.array ≠ s.array ∧ u'.heap t.array = u.heap t.array := by
  unfold getUnixAddrBuffer at hg
  split at hg
  next h hh =>
    cases hg
    have hsub := (List.eraseIdx_sublist u.pool i).map SliceHeader.array
    refine ⟨⟨hu.nodup.sublist hsub, fun h' hm => hu.allocated h' (List.mem_of_mem_eraseIdx hm), hu.length⟩,
      ⟨hu.allocated s (List.getElem?_mem hh), not_mem_map_eraseIdx hu.nodup hh⟩, fun t ht => ?_⟩
    refine ⟨⟨ht.1, fun hm => ht.2 (hsub.subset hm)⟩, fun he => ht.2 ?_, rfl⟩
    exact he ▸ List.mem_map_of_mem _ (List.getElem?_mem hh)
  next =>
    cases hg
    refine ⟨⟨hu.nodup, fun h hm => Nat.lt_succ_of_lt (hu.allocated h hm), fun a => ?_⟩,
      ⟨Nat.lt_succ_self _, fun hm => ?_⟩, fun t ht => ⟨⟨Nat.lt_succ_of_lt ht.1, ht.2⟩, ht.1.ne, ?_⟩⟩
    · by_cases ha : a = u.next
      · subst ha; simp
      · simp [Function.update_noteq ha, hu.length]
    · obtain ⟨h, hm, he⟩ := List.mem_map.1 hm
      exact (hu.allocated h hm).ne he
    · exact Function.update_noteq ht.1.ne _ _

/-- `formatUnixNameZeroCopy` on a pooled slice: the call holds the slice, whose
bytes are those of `formatUnixNameZeroCopy`, and the other slices it holds keep
their bytes. -/
theorem formatUnixNameZeroCopy_spec (hu : u.WF) (hf : u.formatUnixNameZeroCopy i name = some (s, u')) :
    u'.WF ∧ u'.Holds s ∧ u'.bytes s = ProxyProto.formatUnixNameZeroCopy name ∧
      ∀ t, u.Holds t → u'.Holds t ∧ t.array ≠ s.array ∧ u'.heap t.array = u.heap t.array := by
  unfold formatUnixNameZeroCopy getUnixAddrSlice at hf
  generalize hg : u.getUnixAddrBuffer i = g at hf
  obtain ⟨h, u1⟩ := g
  obtain ⟨hw, hs, ht⟩ := getUnixAddrBuffer_spec hu hg
  dsimp only at hf
  split_ifs at hf
  cases hf
  have hl := length_formatUnixNameZeroCopy name
  have hd : (u1.heap h.array).drop 108 = [] := List.drop_eq_nil_of_le (hw.length _).le
  refine ⟨⟨hw.nodup, hw.allocated, fun a => ?_⟩, hs, ?_, fun t htu => ?_⟩
  · by_cases ha : a = h.array
    · subst ha; simp [hd, hl]
    · simp [Function.update_noteq ha, hw.length]
  · simp [bytes, hd, List.take_of_length_le hl.le]
  · obtain ⟨h1, h2, h3⟩ := ht t htu
    exact ⟨h1, h2, (Function.update_noteq h2 _ _).trans h3⟩

/-- `putUnixAddrSlice` of a slice the call holds keeps the pool well formed, and
the other slices the call holds keep their bytes. -/
theorem putUnixAddrSlice_spec {after : Nat × Nat} (hu : u.WF) (hs : u.Holds s)
    (hp : u.putUnixAddrSlice s after = some u') :
    u'.WF ∧ ∀ t, u.Holds t → t.array ≠ s.array → u'.Holds t ∧ u'.heap t.array = u.heap t.array := by
  unfold putUnixAddrSlice putUnixAddrBuffer at hp
  split_ifs at hp with hc hl
  · cases hp
    refine ⟨⟨List.nodup_cons.2 ⟨hs.2, hu.nodup⟩, ?_, fun a => ?_⟩, fun t ht hne => ⟨⟨ht.1, ?_⟩, ?_⟩⟩
    · rintro h (_ | ⟨_, hm⟩)
      exacts [hs.1, hu.allocated h hm]
    · by_cases ha : a = s.array
      · subst ha; simp [hu.length]; simp [hu.length] at hl; omega
      · simp [Function.update_noteq ha, hu.length]
    · simp only [List.map_cons, List.mem_cons, not_or]
      exact ⟨hne, ht.2⟩
    · exact Function.update_noteq hne _ _
  · cases hp
    exact ⟨hu, fun t ht _ => ⟨ht, rfl⟩⟩

end Spec

end UnixAddrPool

/-- From a well-formed pool, a pooled `formatVersion2` that returns returns what the
fresh one does, and leaves the pool well formed: no byte of an earlier use of a
slice reaches the result. -/
theorem formatVersion2Pooled_eq {u u' : UnixAddrPool} {k : UnixCalls} {header : Header}
    {r : Except Error Bytes} (hu : u.WF) (h : formatVersion2Pooled u k header = some (r, u')) :
    r = formatVersion2 header ∧ u'.WF := by
  unfold formatVersion2Pooled at h
  dsimp only at h
  split_ifs at h with hb
  · cases h
    exact ⟨rfl, hu⟩
  simp only [not_or, Bool.not_eq_true, not_not] at hb
  obtain ⟨h4, h6, hx⟩ := hb
  split at h
  next hua =>
    cases h
    simp [formatVersion2, h4, h6, hx, hua, hu]
  next _ _ src _ dst hua =>
    split at h
    · cases h
    next addrSrc u1 h1 =>
      obtain ⟨w1, hs1, hb1, -⟩ := UnixAddrPool.formatUnixNameZeroCopy_spec hu h1
      split at h
      · cases h
      next addrDst u2 h2 =>
        obtain ⟨w2, hs2, hb2, ht2⟩ := UnixAddrPool.formatUnixNameZeroCopy_spec w1 h2
        obtain ⟨hs1', hne, hheap⟩ := ht2 addrSrc hs1
        split at h
        · cases h
        next u3 h3 =>
          obtain ⟨w3, ht3⟩ := UnixAddrPool.putUnixAddrSlice_spec w2 hs1' h3
          obtain ⟨u4, h4', he⟩ := Option.map_eq_some'.1 h
          obtain ⟨rfl, rfl⟩ := Prod.mk.inj he
          refine ⟨?_, (UnixAddrPool.putUnixAddrSlice_spec w3 (ht3 addrDst hs2 hne.symm).1 h4').1⟩
          have hsrc : u2.bytes addrSrc = formatUnixNameZeroCopy src := by
            rw [← hb1, UnixAddrPool.bytes, UnixAddrPool.bytes, hheap]
          rw [hsrc, hb2]
          simp only [formatVersion2, h4, h6, hx, hua]
          cases familyLength lengthUnix header.rawTLVs.length <;> rfl

/-- A `PROXY` header between two Unix stream sockets named `a` and `b`. -/
def unixStreamHeader : Header :=
  ⟨2, .PROXY, .UnixStream, some (.unix "unix" [0x61]), some (.unix "unix" [0x62]), []⟩

/-- Each `Get` takes the pool's first item, and both words that follow `bufPtr`
are zero, as in memory not yet written. -/
def zeroAfter : UnixCalls := ⟨0, 0, (0, 0), (0, 0)⟩

set_option maxRecDepth 1000 in
/-- From a fresh pool `formatVersion2` of a Unix header returns; it puts back two
headers of capacity zero, and the next call panics. -/
theorem formatVersion2Pooled_twice :
    (formatVersion2Pooled .empty zeroAfter unixStreamHeader).isSome ∧
      ((formatVersion2Pooled .empty zeroAfter unixStreamHeader).bind
        (fun p => formatVersion2Pooled p.2 zeroAfter unixStreamHeader)).isNone := by
  decide

/-! ### The states earlier calls leave -/

/-- The package's pools. -/
structure Pools where
  bufferPool : List PooledBuffer
  unixAddrPool : UnixAddrPool
  readerPool : List BufReader

/-- The pools before any call. -/
def Pools.empty : Pools := ⟨[], .empty, []⟩

/-- The states of the pools that earlier calls leave, where `readerPool` makes
readers of `size` bytes. -/
inductive Pools.Reachable (size : Nat) : Pools → Prop
  | empty : Pools.Reachable size .empty
  /-- a `parseVersion1` -/
  | parseVersion1 {p : Pools} (i : Nat) (b : BufReader) (s : Socket) : Pools.Reachable size p →
      Pools.Reachable size { p with bufferPool := (parseVersion1Pooled p.bufferPool i b s).2 }
  /-- a `formatVersion2` that returned -/
  | formatVersion2 {p : Pools} {k : UnixCalls} {header : Header} {r : Except Error Bytes} {u : UnixAddrPool} :
      Pools.Reachable size p → formatVersion2Pooled p.unixAddrPool k header = some (r, u) →
      Pools.Reachable size { p with unixAddrPool := u }
  /-- a `NewConn` -/
  | newConn {p : Pools} (i : Nat) (conn : Socket) (opts : List ConnOption) : Pools.Reachable size p →
      Pools.Reachable size { p with readerPool := (newConnPooled p.readerPool i size conn opts).2 }
  /-- a `Close` that puts back its reader, which keeps the size it was made with -/
  | close {p : Pools} (br : BufReader) : Pools.Reachable size p →
      br.size = (BufReader.newReaderSize size).size → Pools.Reachable size { p with readerPool := putReader br p.readerPool }
  /-- the collector dropping cached items -/
  | collect {p q : Pools} : Pools.Reachable size p → q.bufferPool.Sublist p.bufferPool →
      q.unixAddrPool.pool.Sublist p.unixAddrPool.pool → q.unixAddrPool.heap = p.unixAddrPool.heap →
      q.unixAddrPool.next = p.unixAddrPool.next → q.readerPool.Sublist p.readerPool → Pools.Reachable size q

/-- What every reachable state keeps: the slices of `bufferPool` are empty,
`unixAddrPool` is well formed, and the readers have the size `NewConn` makes. -/
structure Pools.Clean (size : Nat) (p : Pools) : Prop where
  buffers : ∀ b ∈ p.bufferPool, b.len = 0
  unix : p.unixAddrPool.WF
  readers : ∀ br ∈ p.readerPool, br.size = (BufReader.newReaderSize size).size

theorem Pools.Reachable.clean {size : Nat} {p : Pools} (h : p.Reachable size) : p.Clean size := by
  induction h with
  | empty => exact ⟨nofun, UnixAddrPool.empty_wf, nofun⟩
  | parseVersion1 i b s _ ih => exact ⟨(parseVersion1Pooled_eq ih.buffers i b s).2, ih.unix, ih.readers⟩
  | formatVersion2 _ hf ih => exact ⟨ih.buffers, (formatVersion2Pooled_eq ih.unix hf).2, ih.readers⟩
  | newConn i conn opts _ ih => exact ⟨ih.buffers, ih.unix, (newConnPooled_eq ih.readers i conn opts).2⟩
  | close br _ hbr ih =>
    refine ⟨ih.buffers, ih.unix, ?_⟩
    rintro b (_ | ⟨_, hb⟩)
    exacts [hbr, ih.readers b hb]
  | collect _ hb hu hh hn hr ih =>
    refine ⟨fun b h => ih.buffers b (hb.subset h), ⟨ih.unix.nodup.sublist (hu.map _), ?_, ?_⟩,
      fun b h => ih.readers b (hr.subset h)⟩
    · exact fun h hm => hn ▸ ih.unix.allocated h (hu.subset hm)
    · exact hh ▸ ih.unix.length

/-- From every reachable state the pooled `parseVersion1` and `NewConn` are the
fresh ones, and a pooled `formatVersion2` that returns returns the fresh result;
but from a reachable state `formatVersion2` of a Unix header panics where it returns
from a fresh pool. -/
theorem pools_reachable_results (size : Nat) :
    (∀ p : Pools, p.Reachable size → ∀ i b s, (parseVersion1Pooled p.bufferPool i b s).1 = parseVersion1 b s) ∧
    (∀ p : Pools, p.Reachable size → ∀ i conn opts,
      (newConnPooled p.readerPool i size conn opts).1 = newConn size conn opts) ∧
    (∀ p : Pools, p.Reachable size → ∀ k header r u,
      formatVersion2Pooled p.unixAddrPool k header = some (r, u) → r = formatVersion2 header) ∧
    ∃ p : Pools, p.Reachable size ∧ formatVersion2Pooled p.unixAddrPool zeroAfter unixStreamHeader = none ∧
      (formatVersion2Pooled Pools.empty.unixAddrPool zeroAfter unixStreamHeader).map Prod.fst =
        some (formatVersion2 unixStreamHeader) := by
  refine ⟨fun p hp i b s => (parseVersion1Pooled_eq hp.clean.buffers i b s).1,
    fun p hp i conn opts => (newConnPooled_eq hp.clean.readers i conn opts).1,
    fun p hp _ _ _ _ hf => (formatVersion2Pooled_eq hp.clean.unix hf).1, ?_⟩
  obtain ⟨hfresh, hnext⟩ := formatVersion2Pooled_twice
  obtain ⟨⟨r, u⟩, h1⟩ := Option.isSome_iff_exists.1 hfresh
  rw [h1, Option.some_bind, Option.isNone_iff_eq_none] at hnext
  refine ⟨{ Pools.empty with unixAddrPool := u }, .formatVersion2 .empty h1, hnext, ?_⟩
  rw [show Pools.empty.unixAddrPool = .empty from rfl, h1, (formatVersion2Pooled_eq UnixAddrPool.empty_wf h1).1]
  rfl

end ProxyProto
