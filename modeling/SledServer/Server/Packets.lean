import Mathlib.Data.List.Forall2
import Mathlib.Logic.Function.Basic
import Mathlib.Tactic.Ring
import SledServer.Machines.Body

/-!
# Packets from the clients

`rtc3d.cc`: the reader that puts the bytes of a client together to packets.  A packet is a length
of four bytes that counts itself, a type of four bytes and a body.  The reader is called with
whatever the socket holds, so it keeps how far it has come in `rtc3d_connection_t`; the length is
kept in 32 bits and what is left of the packet in 8.

The reader is modelled byte by byte, `readByte` being the body of its loop.  Integers of the source
are natural numbers with their reductions written out; the host is little-endian.  What `malloc`
finds in a new block, and what the server does with the text of a command, are parameters.

`framing_iff` says for which packets the reader gets the packets right.
-/

namespace SledServer

open SledServer.Core

/-! ## Memory -/

/-- A block of memory.  A null pointer, or one that has been freed, is a block without cells. -/
structure Block where
  len : ℕ
  cell : ℕ → UInt8

namespace Block

/-- The block behind a null pointer. -/
def null : Block := ⟨0, fun _ => 0⟩

/-- Store a byte, if its place is inside the block. -/
def store (d : Block) (i : ℕ) (b : UInt8) : Option Block :=
  if i < d.len then some { d with cell := Function.update d.cell i b } else none

/-- The big-endian integer in the four cells from `offset` on, if they are inside the block. -/
def getUint32 (d : Block) (offset : ℕ) : Option ℕ :=
  if offset + 4 ≤ d.len then
    some ((d.cell offset).toNat * 2 ^ 24 + (d.cell (offset + 1)).toNat * 2 ^ 16 +
      (d.cell (offset + 2)).toNat * 2 ^ 8 + (d.cell (offset + 3)).toNat)
  else none

/-- The text from `offset` up to a terminating zero, if there is one inside the block. -/
def text (d : Block) (offset : ℕ) : Option (List UInt8) :=
  let cells := (List.range' offset (d.len - offset)).map d.cell
  if 0 ∈ cells then some (cells.takeWhile (· ≠ 0)) else none

/-- The first `n` cells. -/
def bytes (d : Block) (n : ℕ) : List UInt8 := (List.range n).map d.cell

end Block

/-! ## Connections -/

/-- Why the reader stops in the middle of a byte. -/
inductive Fault
  /-- A byte of the payload is stored outside the data buffer. -/
  | store
  /-- The terminating zero is stored outside the data buffer. -/
  | terminator
  /-- The type of the packet is read from outside the data buffer. -/
  | type
  /-- The text of the command is read from outside the data buffer. -/
  | text
  /-- A field of a connection is used after the connection has been freed. -/
  | closed
  /-- The process stops while it carries out the command. -/
  | process (h : Halt)
  deriving DecidableEq

/-- The fields of `rtc3d_connection_t` that the reader uses. -/
structure Rtc3dConnection where
  /-- `uint8_t` -/
  sizeLeft : ℕ
  /-- `uint32_t` -/
  size : ℕ
  /-- `uint8_t` -/
  dataLeft : ℕ
  data : Block

/-- A call of `packet_handler`, with the size and the data buffer that it finds. -/
structure PacketCall where
  size : ℕ
  data : Block

/-- `rtc3d_server_t`, and the memory it takes its blocks from: `fresh n` are the cells of the
`n`-th block before anything has been stored there.  The command handler returns whether it has
disconnected the connection. -/
structure Rtc3dServer (σ : Type) where
  commandHandler : List UInt8 → σ → Except Halt (σ × Bool)
  fresh : ℕ → ℕ → UInt8

/-- A connection as the reader finds it.  `live` is whether the connection has not been freed.
The source has no counterpart to the last four fields: how many blocks have been allocated, the
calls of `packet_handler`, the texts given to the command handler, and the payload of the current
packet, as far as it has come. -/
structure Reader (σ : Type) where
  conn : Rtc3dConnection
  live : Bool
  ctx : σ
  allocs : ℕ
  calls : List PacketCall
  texts : List (List UInt8)
  received : List UInt8

variable {σ : Type}

/-- `connect_handler`. -/
def connectHandler (ctx : σ) : Reader σ where
  conn := { sizeLeft := 4, size := 0, dataLeft := 0, data := .null }
  live := true
  ctx := ctx
  allocs := 0
  calls := []
  texts := []
  received := []

/-! ## The reader -/

def PTYPE_COMMAND : ℕ := 1

/-- What stands in memory, or the fault of reaching past it. -/
def inside {α : Type} (f : Fault) : Option α → Except Fault α
  | some a => .ok a
  | none => .error f

/-- `packet_handler`.  Packets that are not commands are dropped. -/
def packetHandler (V : Rtc3dServer σ) (r : Reader σ) : Except Fault (Reader σ) := do
  let type ← inside .type (r.conn.data.getUint32 0)
  if type = PTYPE_COMMAND then
    let data ← inside .terminator (r.conn.data.store r.conn.size 0)
    let text ← inside .text (data.text 4)
    match V.commandHandler text r.ctx with
    | .error h => .error (.process h)
    | .ok (ctx, disconnected) =>
      .ok { r with
        conn := { r.conn with data := data }
        live := !disconnected
        ctx := ctx
        texts := r.texts ++ [text] }
  else .ok r

/-- `n` with byte `k`, counted from the least significant one, replaced by `b`. -/
def setByte (n k : ℕ) (b : UInt8) : ℕ := n - n / 256 ^ k % 256 * 256 ^ k + b.toNat * 256 ^ k

/-- Subtraction of integers of 32 bits. -/
def sub32 (m n : ℕ) : ℕ := (m + 2 ^ 32 - n) % 2 ^ 32

/-- A byte of the length. -/
def headerByte (V : Rtc3dServer σ) (r : Reader σ) (b : UInt8) : Reader σ :=
  let size := setByte r.conn.size (r.conn.sizeLeft - 1) b
  let sizeLeft := r.conn.sizeLeft - 1
  if sizeLeft = 0 then
    let size := sub32 size 4
    { r with
      conn := {
        sizeLeft := 0
        size := size
        dataLeft := size % 2 ^ 8
        data := ⟨(size + 1) % 2 ^ 32, V.fresh r.allocs⟩ }
      allocs := r.allocs + 1
      received := [] }
  else { r with conn := { r.conn with sizeLeft := sizeLeft, size := size } }

/-- A byte of the payload.  The connection is used again after `packet_handler` has returned. -/
def payloadByte (V : Rtc3dServer σ) (r : Reader σ) (b : UInt8) : Except Fault (Reader σ) := do
  let data ← inside .store (r.conn.data.store (sub32 r.conn.size r.conn.dataLeft) b)
  let r := { r with
    conn := { r.conn with data := data, dataLeft := r.conn.dataLeft - 1 }
    received := r.received ++ [b] }
  if r.conn.dataLeft = 0 then
    let r ← packetHandler V { r with calls := r.calls ++ [⟨r.conn.size, data⟩] }
    if r.live then
      .ok { r with conn := { r.conn with data := .null, size := 0, sizeLeft := 4 } }
    else .error .closed
  else .ok r

/-- The body of the loop of `read_handler`. -/
def readByte (V : Rtc3dServer σ) (r : Reader σ) (b : UInt8) : Except Fault (Reader σ) :=
  if !r.live then .error .closed
  else if 0 < r.conn.sizeLeft then .ok (headerByte V r b)
  else if 0 < r.conn.dataLeft then payloadByte V r b
  else .ok r

/-- `read_handler`. -/
def readHandler (V : Rtc3dServer σ) (r : Reader σ) (buf : List UInt8) : Except Fault (Reader σ) :=
  run (readByte V) r buf

/-- The calls of `read_handler` for what the socket holds, one read after the other. -/
def reads (V : Rtc3dServer σ) (r : Reader σ) (bufs : List (List UInt8)) :
    Except Fault (Reader σ) :=
  bufs.foldlM (readHandler V) r

/-- How the stream is cut into reads does not matter. -/
lemma reads_eq (V : Rtc3dServer σ) (r : Reader σ) (bufs : List (List UInt8)) :
    reads V r bufs = run (readByte V) r bufs.flatten :=
  foldlM_run bufs r

/-! ## What a byte does -/

section Bytes

variable {V : Rtc3dServer σ} {r r' : Reader σ} {b : UInt8}

lemma Block.store_eq_some {d d' : Block} {i : ℕ} : d.store i b = some d' ↔
    i < d.len ∧ d' = { d with cell := Function.update d.cell i b } := by
  unfold Block.store
  split
  next h => simp [h, eq_comm]
  next h => simp [h]

/-- `packet_handler` leaves the progress of the reader alone, and does not close more than the one
connection. -/
lemma packetHandler_ok (h : packetHandler V r = .ok r') :
    r'.conn.sizeLeft = r.conn.sizeLeft ∧ r'.conn.size = r.conn.size ∧
      r'.conn.dataLeft = r.conn.dataLeft ∧ r'.calls = r.calls := by
  unfold packetHandler at h
  obtain ⟨type, -, h⟩ := bind_eq_ok.mp h
  split at h
  · obtain ⟨data, -, h⟩ := bind_eq_ok.mp h
    obtain ⟨text, -, h⟩ := bind_eq_ok.mp h
    split at h
    · cases h
    · cases h
      exact ⟨rfl, rfl, rfl, rfl⟩
  · cases h
    exact ⟨rfl, rfl, rfl, rfl⟩

/-- The reader after a byte of the length that is not its last one. -/
def Reader.counted (r : Reader σ) (b : UInt8) : Reader σ :=
  { r with conn := { r.conn with
      sizeLeft := r.conn.sizeLeft - 1
      size := setByte r.conn.size (r.conn.sizeLeft - 1) b } }

@[simp] lemma Reader.counted_live : (r.counted b).live = r.live := rfl

@[simp] lemma Reader.counted_sizeLeft : (r.counted b).conn.sizeLeft = r.conn.sizeLeft - 1 := rfl

@[simp] lemma Reader.counted_size :
    (r.counted b).conn.size = setByte r.conn.size (r.conn.sizeLeft - 1) b := rfl

/-- The reader once the length of a packet is complete. -/
def Reader.headed (V : Rtc3dServer σ) (r : Reader σ) (size : ℕ) : Reader σ :=
  { r with
    conn := {
      sizeLeft := 0
      size := size
      dataLeft := size % 2 ^ 8
      data := ⟨(size + 1) % 2 ^ 32, V.fresh r.allocs⟩ }
    allocs := r.allocs + 1
    received := [] }

lemma headerByte_of_one_lt (h : 1 < r.conn.sizeLeft) : headerByte V r b = r.counted b := by
  have hleft : r.conn.sizeLeft - 1 ≠ 0 := by omega
  simp only [headerByte, if_neg hleft]
  rfl

lemma headerByte_of_one (h : r.conn.sizeLeft = 1) :
    headerByte V r b = r.headed V (sub32 (setByte r.conn.size 0 b) 4) := by
  have hleft : r.conn.sizeLeft - 1 = 0 := by omega
  simp only [headerByte, hleft, if_true]
  rfl

lemma headerByte_frame (V : Rtc3dServer σ) (r : Reader σ) (b : UInt8) :
    (headerByte V r b).live = r.live ∧ (headerByte V r b).texts = r.texts := by
  simp only [headerByte]
  split
  · exact ⟨rfl, rfl⟩
  · exact ⟨rfl, rfl⟩

/-- The reader after a byte of the payload has been stored. -/
def Reader.stored (r : Reader σ) (data : Block) (b : UInt8) : Reader σ :=
  { r with
    conn := { r.conn with data := data, dataLeft := r.conn.dataLeft - 1 }
    received := r.received ++ [b] }

/-- The reader when it calls `packet_handler`. -/
def Reader.called (r : Reader σ) (data : Block) (b : UInt8) : Reader σ :=
  { r.stored data b with calls := r.calls ++ [⟨r.conn.size, data⟩] }

/-- The reader when it is done with a packet. -/
def Reader.freed (r : Reader σ) : Reader σ :=
  { r with conn := { r.conn with data := .null, size := 0, sizeLeft := 4 } }

/-- What the reader can do with a byte. -/
inductive ByteEffect (V : Rtc3dServer σ) (r : Reader σ) (b : UInt8) : Reader σ → Prop
  | header (hsize : 0 < r.conn.sizeLeft) : ByteEffect V r b (headerByte V r b)
  | payload {data : Block} (hsize : r.conn.sizeLeft = 0) (hdata : 1 < r.conn.dataLeft)
      (hstore : r.conn.data.store (sub32 r.conn.size r.conn.dataLeft) b = some data) :
      ByteEffect V r b (r.stored data b)
  | packet {data : Block} {u : Reader σ} (hsize : r.conn.sizeLeft = 0)
      (hdata : r.conn.dataLeft = 1)
      (hstore : r.conn.data.store (sub32 r.conn.size r.conn.dataLeft) b = some data)
      (hcall : packetHandler V (r.called data b) = .ok u) (hlive : u.live = true) :
      ByteEffect V r b u.freed
  | ignored (hsize : r.conn.sizeLeft = 0) (hdata : r.conn.dataLeft = 0) : ByteEffect V r b r

lemma readByte_of_header (hlive : r.live = true) (hsize : 0 < r.conn.sizeLeft) :
    readByte V r b = .ok (headerByte V r b) := by
  simp [readByte, hlive, hsize]

lemma readByte_of_payload {data : Block} (hlive : r.live = true) (hsize : r.conn.sizeLeft = 0)
    (hdata : 1 < r.conn.dataLeft)
    (hstore : r.conn.data.store (sub32 r.conn.size r.conn.dataLeft) b = some data) :
    readByte V r b = .ok (r.stored data b) := by
  have hleft : r.conn.dataLeft - 1 ≠ 0 := by omega
  have hpos : 0 < r.conn.dataLeft := by omega
  have hbyte : payloadByte V r b = .ok (r.stored data b) := by
    unfold payloadByte
    rw [hstore]
    simp only [inside, ok_bind]
    rw [if_neg hleft]
    rfl
  simp only [readByte, hlive, hsize, hpos, hbyte]
  rfl

lemma readByte_of_packet {data : Block} (hlive : r.live = true) (hsize : r.conn.sizeLeft = 0)
    (hdata : r.conn.dataLeft = 1)
    (hstore : r.conn.data.store (sub32 r.conn.size r.conn.dataLeft) b = some data) :
    readByte V r b = packetHandler V (r.called data b) >>= fun u =>
      if u.live then .ok u.freed else .error .closed := by
  have hleft : r.conn.dataLeft - 1 = 0 := by omega
  have hpos : 0 < r.conn.dataLeft := by omega
  have hbyte : payloadByte V r b = packetHandler V (r.called data b) >>= fun u =>
      if u.live then .ok u.freed else .error .closed := by
    unfold payloadByte
    rw [hstore]
    simp only [inside, ok_bind]
    rw [if_pos hleft]
    rfl
  simp only [readByte, hlive, hsize, hpos, hbyte]
  rfl

lemma readByte_of_store_none (hlive : r.live = true) (hsize : r.conn.sizeLeft = 0)
    (hdata : 0 < r.conn.dataLeft)
    (hstore : r.conn.data.store (sub32 r.conn.size r.conn.dataLeft) b = none) :
    readByte V r b = .error .store := by
  have hbyte : payloadByte V r b = .error .store := by
    unfold payloadByte
    rw [hstore]
    rfl
  simp only [readByte, hlive, hsize, hdata, hbyte]
  rfl

lemma readByte_of_ignored (hlive : r.live = true) (hsize : r.conn.sizeLeft = 0)
    (hdata : r.conn.dataLeft = 0) : readByte V r b = .ok r := by
  simp [readByte, hlive, hsize, hdata]

lemma readByte_effect (h : readByte V r b = .ok r') : r.live = true ∧ ByteEffect V r b r' := by
  have hlive : r.live = true := by
    by_contra hdead
    rw [Bool.not_eq_true] at hdead
    simp [readByte, hdead] at h
  refine ⟨hlive, ?_⟩
  obtain hsize | hsize := Nat.eq_zero_or_pos r.conn.sizeLeft
  · obtain hdata | hdata := Nat.eq_zero_or_pos r.conn.dataLeft
    · rw [readByte_of_ignored hlive hsize hdata] at h
      cases h
      exact .ignored hsize hdata
    · cases hstore : r.conn.data.store (sub32 r.conn.size r.conn.dataLeft) b with
      | none =>
        rw [readByte_of_store_none hlive hsize hdata hstore] at h
        cases h
      | some data =>
        by_cases hone : r.conn.dataLeft = 1
        · rw [readByte_of_packet hlive hsize hone hstore] at h
          obtain ⟨u, hcall, h⟩ := bind_eq_ok.mp h
          split at h
          next hu =>
            cases h
            exact .packet hsize hone hstore hcall hu
          next => cases h
        · rw [readByte_of_payload hlive hsize (by omega) hstore] at h
          cases h
          exact .payload hsize (by omega) hstore
  · rw [readByte_of_header hlive hsize] at h
    cases h
    exact .header hsize

end Bytes

/-! ## Framing -/

/-- A packet as a client means it. -/
structure Packet where
  type : UInt32
  body : List UInt8

/-- The four bytes of an integer, the most significant one first. -/
def be32 (n : ℕ) : List UInt8 :=
  [UInt8.ofNat (n / 2 ^ 24), UInt8.ofNat (n / 2 ^ 16), UInt8.ofNat (n / 2 ^ 8), UInt8.ofNat n]

/-- What follows the length. -/
def Packet.payload (p : Packet) : List UInt8 := be32 p.type.toNat ++ p.body

/-- The bytes of a packet. -/
def Packet.encode (p : Packet) : List UInt8 := be32 (8 + p.body.length) ++ p.payload

/-- The call finds this packet, and nothing else, in the data buffer. -/
def PacketCall.Holds (c : PacketCall) (p : Packet) : Prop :=
  c.size = p.payload.length ∧ c.data.bytes c.size = p.payload

/-- The reader is called once for each packet, in order, and is ready for the next one. -/
def Framed (V : Rtc3dServer σ) (ctx : σ) (packets : List Packet) (bufs : List (List UInt8)) :
    Prop :=
  ∃ r, reads V (connectHandler ctx) bufs = .ok r ∧
    List.Forall₂ PacketCall.Holds r.calls packets ∧ r.conn.sizeLeft = 4 ∧ r.conn.size = 0

/-- The command handler keeps the connection open. -/
def Rtc3dServer.KeepsOpen (V : Rtc3dServer σ) : Prop :=
  ∀ text ctx, ∃ ctx', V.commandHandler text ctx = .ok (ctx', false)

lemma Packet.length_payload (p : Packet) : p.payload.length = 4 + p.body.length := by
  simp [Packet.payload, be32]
  omega

lemma Packet.length_encode (p : Packet) : p.encode.length = 8 + p.body.length := by
  simp [Packet.encode, p.length_payload, be32]
  omega

section Framing

variable {V : Rtc3dServer σ} {r r' : Reader σ}

/-- The reader is between two packets. -/
structure Reader.Idle (r : Reader σ) : Prop where
  live : r.live = true
  sizeLeft : r.conn.sizeLeft = 4
  size : r.conn.size = 0

/-- The four bytes of a length are put together again. -/
lemma setByte_be32 {n : ℕ} (hn : n < 2 ^ 32) :
    setByte (setByte (setByte (setByte 0 3 (UInt8.ofNat (n / 2 ^ 24))) 2
      (UInt8.ofNat (n / 2 ^ 16))) 1 (UInt8.ofNat (n / 2 ^ 8))) 0 (UInt8.ofNat n) = n := by
  simp only [setByte, UInt8.toNat_ofNat']
  omega

lemma run_counted {b : UInt8} {bs : List UInt8} (hlive : r.live = true)
    (hleft : 1 < r.conn.sizeLeft) :
    run (readByte V) r (b :: bs) = run (readByte V) (r.counted b) bs := by
  rw [run_cons, readByte_of_header hlive (by omega), ok_bind, headerByte_of_one_lt hleft]

lemma run_headed {b : UInt8} {bs : List UInt8} (hlive : r.live = true)
    (hleft : r.conn.sizeLeft = 1) :
    run (readByte V) r (b :: bs) =
      run (readByte V) (r.headed V (sub32 (setByte r.conn.size 0 b) 4)) bs := by
  rw [run_cons, readByte_of_header hlive (by omega), ok_bind, headerByte_of_one hleft]

/-- The length of a packet is read. -/
lemma run_length (hr : r.Idle) {n : ℕ} (hn : n < 2 ^ 32) (bs : List UInt8) :
    run (readByte V) r (be32 n ++ bs) = run (readByte V) (r.headed V (sub32 n 4)) bs := by
  have hlive := hr.live
  have hleft := hr.sizeLeft
  simp only [be32, List.cons_append, List.nil_append]
  rw [run_counted hlive (by omega), run_counted (by simpa) (by simp [hleft]),
    run_counted (by simpa) (by simp [hleft]), run_headed (by simpa) (by simp [hleft])]
  simp only [Reader.counted_size, Reader.counted_sizeLeft, hleft, hr.size]
  rw [setByte_be32 hn]
  rfl

/-- The reader is in the middle of a packet: it has `done` of the payload, and `rest` is to come. -/
structure Reader.Midway (r : Reader σ) (done rest : List UInt8) : Prop where
  live : r.live = true
  sizeLeft : r.conn.sizeLeft = 0
  size : r.conn.size = done.length + rest.length
  dataLeft : r.conn.dataLeft = rest.length
  len : r.conn.data.len = r.conn.size + 1
  small : r.conn.size < 2 ^ 8
  stored : r.conn.data.bytes done.length = done

lemma sub32_of_le {m n : ℕ} (hn : n ≤ m) (hm : m < 2 ^ 32) : sub32 m n = m - n := by
  unfold sub32
  omega

/-- The block of a packet in the middle, with one more byte. -/
lemma Block.bytes_update {d : Block} {done : List UInt8} (h : d.bytes done.length = done)
    (b : UInt8) :
    Block.bytes { d with cell := Function.update d.cell done.length b } (done.length + 1) =
      done ++ [b] := by
  have hmap : (List.range done.length).map (Function.update d.cell done.length b) =
      (List.range done.length).map d.cell := by
    refine List.map_congr_left fun i hi => ?_
    have hlt : i < done.length := List.mem_range.mp hi
    simp [Function.update, hlt.ne]
  rw [Block.bytes, List.range_succ, List.map_append, hmap]
  simpa [Block.bytes] using h

/-- The byte that comes next finds its place. -/
lemma Reader.Midway.store {done rest : List UInt8} {b : UInt8} (h : r.Midway done (b :: rest)) :
    ∃ data, r.conn.data.store (sub32 r.conn.size r.conn.dataLeft) b = some data ∧
      data.len = r.conn.size + 1 ∧ data.bytes (done.length + 1) = done ++ [b] := by
  have hsize := h.size
  have hdata := h.dataLeft
  have hsmall := h.small
  have hlen := h.len
  simp only [List.length_cons] at hsize hdata
  have hindex : sub32 r.conn.size r.conn.dataLeft = done.length := by
    rw [sub32_of_le (by omega) (by omega)]
    omega
  refine ⟨_, Block.store_eq_some.mpr ⟨?_, rfl⟩, hlen, ?_⟩
  · rw [hindex, hlen]
    omega
  · rw [hindex]
    exact Block.bytes_update h.stored b

lemma midway_stored {done rest : List UInt8} {b : UInt8} (h : r.Midway done (b :: rest))
    (hrest : rest ≠ []) :
    ∃ u, readByte V r b = .ok u ∧ u.Midway (done ++ [b]) rest ∧ u.calls = r.calls := by
  obtain ⟨data, hstore, hlen, hbytes⟩ := h.store
  have hsize := h.size
  have hdata := h.dataLeft
  have hpos : 0 < rest.length := List.length_pos_iff.mpr hrest
  simp only [List.length_cons] at hsize hdata
  refine ⟨_, readByte_of_payload h.live h.sizeLeft (by omega) hstore, ?_, rfl⟩
  exact {
    live := h.live
    sizeLeft := h.sizeLeft
    size := by
      simp only [Reader.stored, List.length_append, List.length_singleton]
      omega
    dataLeft := by simp [Reader.stored, hdata]
    len := hlen
    small := h.small
    stored := by simpa [Reader.stored] using hbytes }

/-- A packet that is complete, and at least as long as its type, is handed over. -/
lemma packetHandler_of_open (hopen : V.KeepsOpen) (hlive : r.live = true)
    (hlen : r.conn.data.len = r.conn.size + 1) (hsize : 4 ≤ r.conn.size) :
    ∃ u, packetHandler V r = .ok u ∧ u.live = true := by
  have htype : ∃ type, r.conn.data.getUint32 0 = some type := by
    unfold Block.getUint32
    exact ⟨_, if_pos (by omega)⟩
  obtain ⟨type, htype⟩ := htype
  rw [packetHandler, htype]
  simp only [inside, ok_bind]
  by_cases hcommand : type = PTYPE_COMMAND
  · rw [if_pos hcommand]
    have hstore : r.conn.data.store r.conn.size 0 =
        some { r.conn.data with cell := Function.update r.conn.data.cell r.conn.size 0 } :=
      Block.store_eq_some.mpr ⟨by omega, rfl⟩
    -- The terminating zero is the one that ends the text, at the latest.
    have htext : ∃ text, Block.text { r.conn.data with
        cell := Function.update r.conn.data.cell r.conn.size 0 } 4 = some text := by
      refine ⟨_, if_pos ?_⟩
      refine List.mem_map.mpr ⟨r.conn.size, ?_, by simp⟩
      rw [List.mem_range'_1]
      simp only
      omega
    obtain ⟨text, htext⟩ := htext
    obtain ⟨ctx, hctx⟩ := hopen text r.ctx
    rw [hstore]
    simp only [ok_bind]
    rw [htext]
    simp only [ok_bind, hctx]
    exact ⟨_, rfl, rfl⟩
  · rw [if_neg hcommand]
    exact ⟨r, rfl, hlive⟩

lemma midway_packet (hopen : V.KeepsOpen) {done : List UInt8} {b : UInt8} (h : r.Midway done [b])
    (hsize : 4 ≤ r.conn.size) :
    ∃ u c, readByte V r b = .ok u ∧ u.Idle ∧ u.calls = r.calls ++ [c] ∧
      c.size = r.conn.size ∧ c.data.bytes c.size = done ++ [b] := by
  obtain ⟨data, hstore, hlen, hbytes⟩ := h.store
  obtain ⟨u, hcall, hlive⟩ := packetHandler_of_open (r := r.called data b) hopen h.live hlen hsize
  obtain ⟨-, -, -, hcalls⟩ := packetHandler_ok hcall
  refine ⟨u.freed, ⟨r.conn.size, data⟩, ?_, ⟨hlive, rfl, rfl⟩, hcalls, rfl, ?_⟩
  · rw [readByte_of_packet h.live h.sizeLeft h.dataLeft hstore, hcall, ok_bind, if_pos hlive]
  · simpa [h.size] using hbytes

/-- The payload of a packet is read. -/
lemma run_payload (hopen : V.KeepsOpen) : ∀ {rest done : List UInt8} {r : Reader σ},
    r.Midway done rest → rest ≠ [] → 4 ≤ r.conn.size →
    ∃ u c, run (readByte V) r rest = .ok u ∧ u.Idle ∧ u.calls = r.calls ++ [c] ∧
      c.size = r.conn.size ∧ c.data.bytes c.size = done ++ rest
  | [], _, _, _, hrest, _ => absurd rfl hrest
  | [b], done, r, h, _, hsize => by
    obtain ⟨u, c, hbyte, hidle, hcalls, hcs, hcb⟩ := midway_packet hopen h hsize
    exact ⟨u, c, by rw [run_cons, hbyte, ok_bind, run_nil], hidle, hcalls, hcs, hcb⟩
  | b :: b' :: rest, done, r, h, _, hsize => by
    obtain ⟨t, hbyte, hmid, htcalls⟩ := midway_stored (V := V) h (by simp)
    have htsize : t.conn.size = r.conn.size := by
      rw [hmid.size, h.size]
      simp
      omega
    obtain ⟨u, c, hrun, hidle, hcalls, hcs, hcb⟩ := run_payload hopen hmid (by simp)
      (by rw [htsize]; exact hsize)
    refine ⟨u, c, ?_, hidle, ?_, hcs.trans htsize, ?_⟩
    · rw [run_cons, hbyte, ok_bind, hrun]
    · rw [hcalls, htcalls]
    · rw [hcb]
      simp

/-- A packet that fits into the eight bits of what is left is read. -/
lemma run_encode (hopen : V.KeepsOpen) (hr : r.Idle) {p : Packet} (hp : p.body.length ≤ 251) :
    ∃ u c, run (readByte V) r p.encode = .ok u ∧ u.Idle ∧ u.calls = r.calls ++ [c] ∧
      c.Holds p := by
  have hlength := p.length_payload
  have hsize : sub32 (8 + p.body.length) 4 = p.payload.length := by
    rw [sub32_of_le (by omega) (by omega), hlength]
    omega
  have hmid : (r.headed V p.payload.length).Midway [] p.payload := {
    live := hr.live
    sizeLeft := rfl
    size := by simp [Reader.headed]
    dataLeft := Nat.mod_eq_of_lt (by omega)
    len := Nat.mod_eq_of_lt (by omega)
    small := by
      simp only [Reader.headed]
      omega
    stored := rfl }
  obtain ⟨u, c, hrun, hidle, hcalls, hcs, hcb⟩ := run_payload hopen hmid
    (List.ne_nil_of_length_pos (by omega)) (by simp only [Reader.headed]; omega)
  refine ⟨u, c, ?_, hidle, hcalls, hcs, hcb⟩
  rw [Packet.encode, run_length hr (by omega), hsize, hrun]

/-- Packets that all fit are read one after the other. -/
lemma run_packets (hopen : V.KeepsOpen) : ∀ {packets : List Packet} {r : Reader σ}, r.Idle →
    (∀ p ∈ packets, p.body.length ≤ 251) →
    ∃ u cs, run (readByte V) r (packets.flatMap Packet.encode) = .ok u ∧ u.Idle ∧
      u.calls = r.calls ++ cs ∧ List.Forall₂ PacketCall.Holds cs packets
  | [], r, hr, _ => ⟨r, [], rfl, hr, by simp, .nil⟩
  | p :: packets, r, hr, hall => by
    obtain ⟨t, c, hp, ht, htcalls, hc⟩ := run_encode hopen hr (hall p List.mem_cons_self)
    obtain ⟨u, cs, hrun, hu, hcalls, hcs⟩ := run_packets hopen ht fun q hq =>
      hall q (List.mem_cons_of_mem p hq)
    refine ⟨u, c :: cs, ?_, hu, by simp [hcalls, htcalls], .cons hc hcs⟩
    rw [List.flatMap_cons, run_append, hp, ok_bind, hrun]

/-! ### What the calls account for -/

/-- The bytes that a call stands for, by the eight bits in which they are counted. -/
def spent (cs : List PacketCall) : ℕ := (cs.map fun c => 4 + c.size % 2 ^ 8).sum

lemma spent_concat (cs : List PacketCall) (c : PacketCall) :
    spent (cs ++ [c]) = spent cs + (4 + c.size % 2 ^ 8) := by
  simp [spent]

/-- Of `n` bytes, those that are not part of a call are part of the packet in hand. -/
structure Reader.Accounts (r : Reader σ) (n : ℕ) : Prop where
  le : r.conn.sizeLeft ≤ 4
  header : 0 < r.conn.sizeLeft → n + r.conn.sizeLeft = spent r.calls + 4
  payload : r.conn.sizeLeft = 0 → 0 < r.conn.dataLeft →
    n + r.conn.dataLeft = spent r.calls + 4 + r.conn.size % 2 ^ 8

lemma Reader.Accounts.step {n : ℕ} {b : UInt8} (h : r.Accounts n)
    (hbyte : readByte V r b = .ok r') : r'.Accounts (n + 1) := by
  obtain ⟨-, heffect⟩ := readByte_effect hbyte
  have hle := h.le
  cases heffect with
  | header hsize =>
    have hn := h.header hsize
    by_cases hone : r.conn.sizeLeft = 1
    · rw [headerByte_of_one hone]
      refine ⟨Nat.zero_le _, fun hpos => absurd hpos (lt_irrefl 0), fun _ _ => ?_⟩
      simp only [Reader.headed]
      omega
    · rw [headerByte_of_one_lt (by omega)]
      refine ⟨?_, fun _ => ?_, fun hzero => ?_⟩
      · rw [Reader.counted_sizeLeft]
        omega
      · simp only [Reader.counted]
        omega
      · rw [Reader.counted_sizeLeft] at hzero
        omega
  | payload hsize hdata hstore =>
    have hn := h.payload hsize (by omega)
    refine ⟨hle, fun hpos => absurd hpos (by simp [Reader.stored, hsize]), fun _ _ => ?_⟩
    simp only [Reader.stored]
    omega
  | packet hsize hdata hstore hcall hlive =>
    have hn := h.payload hsize (by omega)
    obtain ⟨-, -, -, hcalls⟩ := packetHandler_ok hcall
    refine ⟨le_rfl, fun _ => ?_, fun hzero => absurd hzero (by simp [Reader.freed])⟩
    simp only [Reader.freed, hcalls, Reader.called, spent_concat]
    omega
  | ignored hsize hdata =>
    exact ⟨hle, fun hpos => absurd hpos (by omega), fun _ hpos => absurd hpos (by omega)⟩

lemma Reader.Accounts.run {bs : List UInt8} : ∀ {r : Reader σ} {n : ℕ}, r.Accounts n →
    Core.run (readByte V) r bs = .ok r' → r'.Accounts (n + bs.length) := by
  induction bs with
  | nil =>
    intro r n h hrun
    cases hrun
    exact h
  | cons b bs ih =>
    intro r n h hrun
    obtain ⟨t, hbyte, hrun⟩ := run_cons_ok.mp hrun
    have ht := ih (h.step hbyte) hrun
    rwa [Nat.add_assoc, Nat.add_comm 1, ← List.length_cons] at ht

lemma accounts_connectHandler (ctx : σ) : (connectHandler ctx).Accounts 0 where
  le := le_rfl
  header _ := rfl
  payload h := absurd h (by simp [connectHandler])

/-- Calls that hold the packets account for at most their bytes, and for all of them only if no
packet is too long. -/
lemma spent_of_holds : ∀ {cs : List PacketCall} {packets : List Packet},
    List.Forall₂ PacketCall.Holds cs packets →
    spent cs ≤ (packets.flatMap Packet.encode).length ∧
      (spent cs = (packets.flatMap Packet.encode).length → ∀ p ∈ packets, p.body.length ≤ 251)
  | _, _, .nil => by simp [spent]
  | c :: cs, p :: packets, .cons hc hcs => by
    obtain ⟨hle, hshort⟩ := spent_of_holds hcs
    have hsize := hc.1
    have hpayload := p.length_payload
    have hencode := p.length_encode
    have hspent : spent (c :: cs) = 4 + c.size % 2 ^ 8 + spent cs := by simp [spent]
    rw [List.flatMap_cons, List.length_append, hspent]
    refine ⟨by omega, fun heq q hq => ?_⟩
    cases List.mem_cons.mp hq with
    | inl hqp =>
      subst hqp
      omega
    | inr hqs => exact hshort (by omega) q hqs

lemma short_of_framed {ctx : σ} {packets : List Packet} {bufs : List (List UInt8)}
    (hcut : bufs.flatten = packets.flatMap Packet.encode) (h : Framed V ctx packets bufs) :
    ∀ p ∈ packets, p.body.length ≤ 251 := by
  obtain ⟨r, hrun, hcalls, hleft, -⟩ := h
  rw [reads_eq, hcut] at hrun
  have haccounts := (accounts_connectHandler ctx).run hrun
  have hn := haccounts.header (by omega)
  exact (spent_of_holds hcalls).2 (by omega)

end Framing

/-- The reader gets the packets right, however the stream is cut, exactly when no body is longer
than 251 bytes: type and body then fit into the eight bits of `data_left`. -/
theorem framing_iff (V : Rtc3dServer σ) (ctx : σ) (hopen : V.KeepsOpen) (packets : List Packet)
    (bufs : List (List UInt8)) (hcut : bufs.flatten = packets.flatMap Packet.encode) :
    Framed V ctx packets bufs ↔ ∀ p ∈ packets, p.body.length ≤ 251 := by
  constructor
  · exact short_of_framed hcut
  · intro hall
    have hidle : (connectHandler ctx).Idle := ⟨rfl, rfl, rfl⟩
    obtain ⟨u, cs, hrun, hu, hcalls, hcs⟩ := run_packets hopen hidle hall
    refine ⟨u, ?_, ?_, hu.sizeLeft, hu.size⟩
    · rw [reads_eq, hcut, hrun]
    · rw [hcalls]
      simpa [connectHandler] using hcs

/-- A server that takes no notice of the commands. -/
def deafServer : Rtc3dServer Unit where
  commandHandler _ _ := .ok ((), false)
  fresh _ _ := 0

lemma deafServer_keepsOpen : deafServer.KeepsOpen := fun _ _ => ⟨(), rfl⟩

/-- Two packets in three reads. -/
theorem framing_iff_two_packets :
    Framed deafServer () [⟨1, [0x42, 0x79, 0x65]⟩, ⟨4, []⟩]
        [[0, 0, 0, 11, 0, 0, 0], [1, 0x42, 0x79, 0x65, 0], [0, 0, 8, 0, 0, 0, 4]] ↔
      ∀ p ∈ [(⟨1, [0x42, 0x79, 0x65]⟩ : Packet), ⟨4, []⟩], p.body.length ≤ 251 :=
  framing_iff deafServer () deafServer_keepsOpen _ _ (by decide)

/-- A body of 252 bytes: type and body are 256 bytes, of which the reader counts none. -/
theorem framing_fails_at_252 :
    (List.replicate 252 (0 : UInt8)).length ≤ 2 ^ 31 - 9 ∧ deafServer.KeepsOpen ∧
      ¬ Framed deafServer () [⟨1, List.replicate 252 0⟩]
        [Packet.encode ⟨1, List.replicate 252 0⟩] := by
  refine ⟨?_, deafServer_keepsOpen, fun h => ?_⟩
  · rw [List.length_replicate]
    omega
  · have hcut : [Packet.encode ⟨1, List.replicate 252 0⟩].flatten =
        [⟨1, List.replicate 252 0⟩].flatMap Packet.encode := by
      simp only [List.flatten_cons, List.flatten_nil, List.flatMap_cons, List.flatMap_nil]
    have hshort := short_of_framed hcut h ⟨1, List.replicate 252 0⟩ List.mem_cons_self
    rw [List.length_replicate] at hshort
    omega

end SledServer
