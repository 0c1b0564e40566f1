import Mathlib.Data.List.TakeWhile
import SledServer.Core.Endian
import SledServer.Server.Packets

/-!
# Packets to the clients

`rtc3d.cc` and `rtc3d_dataframe.cc`: the functions that put a packet together in a buffer and give
it to `net_send`, and the functions of the test client that take it apart again.

The host is little-endian; an integer of the source is stored as the bytes of its `UInt32` or
`UInt64`, and a `float` is the pattern of its 32 bits.  Every store is checked against the length of
the buffer.  What a buffer holds before anything has been stored in it, and whether `malloc` finds
memory, are parameters of each call.

`packets_decode` says that the client gets back what has been sent.
-/

namespace SledServer

open SledServer.Core

/-! ## Byte order -/

/-- `htonl` -/
def htonl (hostlong : UInt32) : UInt32 := UInt32.ofNat (swap 4 hostlong.toNat)

/-- `htonll`.  The first byte of an integer tells the order of the host. -/
def htonll (value : UInt64) : UInt64 :=
  let num := 1
  if (little 4 num).headD 0 = 1 then
    (htonl (value &&& 0xFFFFFFFF).toUInt32).toUInt64 <<< 32 |||
      (htonl (value >>> 32).toUInt32).toUInt64
  else value

/-- `htonf`, on the bits of a `float`. -/
def htonf (value : UInt32) : UInt32 := htonl value

/-! ## Buffers -/

namespace Block

/-- Store bytes one after the other. -/
def put (offset : ℕ) : List UInt8 → Block → Option Block
  | [], d => some d
  | b :: bs, d => do
    let d ← d.store offset b
    d.put (offset + 1) bs

/-- Store an integer of 32 bits. -/
def putUint32 (offset : ℕ) (v : UInt32) (d : Block) : Option Block :=
  d.put offset (little 4 v.toNat)

/-- Store an integer of 64 bits. -/
def putUint64 (offset : ℕ) (v : UInt64) (d : Block) : Option Block :=
  d.put offset (little 8 v.toNat)

end Block

/-- The bytes that `net_send` passes on. -/
def netSend (buf : Block) (size : ℕ) : Option (List UInt8) :=
  if size ≤ buf.len then some (buf.bytes size) else none

/-! ## Data frames -/

def PTYPE_ERROR : UInt32 := 0
def PTYPE_DATAFRAME : UInt32 := 3
def CTYPE_3D : UInt32 := 1

/-- `rtc3d_set_packet_header` -/
def rtc3dSetPacketHeader (buffer : ℕ) (size type : UInt32) (d : Block) : Option Block := do
  let d ← d.putUint32 (buffer + 0) (htonl size)
  d.putUint32 (buffer + 4) (htonl type)

/-- `rtc3d_set_component_header` -/
def rtc3dSetComponentHeader (buffer : ℕ) (size type frame : UInt32) (time : UInt64) (d : Block) :
    Option Block := do
  let d ← d.putUint32 (buffer + 0) (htonl size)
  let d ← d.putUint32 (buffer + 4) (htonl type)
  let d ← d.putUint32 (buffer + 8) (htonl frame)
  d.putUint64 (buffer + 12) (htonll time)

/-- `rtc3d_set_marker` -/
def rtc3dSetMarker (buffer : ℕ) (x y z delta : UInt32) (d : Block) : Option Block := do
  let d ← d.putUint32 (buffer + 0) (htonf x)
  let d ← d.putUint32 (buffer + 4) (htonf y)
  let d ← d.putUint32 (buffer + 8) (htonf z)
  d.putUint32 (buffer + 12) (htonf delta)

/-- `rtc3d_send_data`.  `stack` is what the buffer holds at first. -/
def rtc3dSendData (stack : ℕ → UInt8) (frame : UInt32) (time : UInt64) (point : UInt32) :
    Option (List UInt8) := do
  let buffer : Block := ⟨52, stack⟩
  let buffer ← rtc3dSetPacketHeader 0 52 PTYPE_DATAFRAME buffer
  let buffer ← buffer.putUint32 8 (htonl 1)
  let buffer ← rtc3dSetComponentHeader 12 40 CTYPE_3D frame time buffer
  let buffer ← buffer.putUint32 32 (htonl 1)
  let buffer ← rtc3dSetMarker 36 point 0 0 0 buffer
  netSend buffer (8 + 4 + 20 + 4 + 16)

/-! ## Commands and errors -/

/-- The length of a text up to its first zero. -/
def strlen (s : List UInt8) : ℕ := (s.takeWhile (· ≠ 0)).length

/-- What the two functions that send a text share.  `heap` is what `malloc` finds; without memory
nothing is sent.  The sizes are of type `int`; there is no result if they overflow. -/
def sendText (type : UInt32) (heap : Option (ℕ → UInt8)) (text : List UInt8) :
    Option (List UInt8) := do
  let size := strlen text
  if 2 ^ 31 ≤ 8 + size then none
  else
    match heap with
    | none => some []
    | some cells =>
      let buffer : Block := ⟨8 + size, cells⟩
      let buffer ← buffer.putUint32 0 (htonl (UInt32.ofNat (8 + size)))
      let buffer ← buffer.putUint32 4 (htonl type)
      let buffer ← buffer.put 8 (text.take size)
      netSend buffer (8 + size)

/-- `rtc3d_send_command` -/
def rtc3dSendCommand (heap : Option (ℕ → UInt8)) (command : List UInt8) : Option (List UInt8) :=
  sendText (UInt32.ofNat PTYPE_COMMAND) heap command

/-- `rtc3d_send_error` -/
def rtc3dSendError (heap : Option (ℕ → UInt8)) (error : List UInt8) : Option (List UInt8) :=
  sendText PTYPE_ERROR heap error

/-- What a call of one of the three functions is to send. -/
inductive Message
  | command (text : List UInt8)
  | error (text : List UInt8)
  | data (frame : UInt32) (time : UInt64) (point : UInt32)
  deriving DecidableEq

/-- A call, with the memory it finds. -/
structure SendCall where
  message : Message
  heap : Option (ℕ → UInt8)
  stack : ℕ → UInt8

/-- The bytes that a call gives to `net_send`. -/
def SendCall.bytes (c : SendCall) : Option (List UInt8) :=
  match c.message with
  | .command text => rtc3dSendCommand c.heap text
  | .error text => rtc3dSendError c.heap text
  | .data frame time point => rtc3dSendData c.stack frame time point

/-- Whether the call comes to `net_send`: a text needs memory for its packet. -/
def SendCall.sends (c : SendCall) : Bool :=
  match c.message with
  | .data _ _ _ => true
  | _ => c.heap.isSome

/-- The text ends with its last byte, and the size of its packet is an `int`. -/
def Message.Valid : Message → Prop
  | .command text | .error text => 0 ∉ text ∧ text.length < 2 ^ 31 - 8
  | .data _ _ _ => True

/-! ## The client -/

/-- What `receive` leaves in `pSize`, `pType` and `pContent`. -/
structure Received where
  pSize : ℕ
  pType : ℕ
  pContent : List UInt8
  deriving DecidableEq

/-- `struct.unpack` of a big-endian integer of `k` bytes, and what follows it. -/
def unpack (k : ℕ) (bs : List UInt8) : Option (ℕ × List UInt8) :=
  if k ≤ bs.length then some (ofBig (bs.take k), bs.drop k) else none

/-- `SledClient.receive`, and what is left of the stream. -/
def receive (stream : List UInt8) : Option (Received × List UInt8) := do
  let (pSize, stream) ← unpack 4 stream
  let (pType, stream) ← unpack 4 stream
  if 8 < pSize then
    if pSize - 8 ≤ stream.length then
      some (⟨pSize, pType, stream.take (pSize - 8)⟩, stream.drop (pSize - 8))
    else none
  else some (⟨pSize, pType, []⟩, stream)

/-- A marker, by the bits of its floats. -/
structure Marker where
  x : ℕ
  y : ℕ
  z : ℕ
  delta : ℕ
  deriving DecidableEq

/-- A component, with the markers that follow its header. -/
structure Component where
  cSize : ℕ
  cType : ℕ
  cFrame : ℕ
  cTime : ℕ
  markers : List Marker
  deriving DecidableEq

/-- The loop of `parse3D` over the markers of a component. -/
def parseMarkers : ℕ → List UInt8 → Option (List Marker × List UInt8)
  | 0, bs => some ([], bs)
  | n + 1, bs => do
    let (x, bs) ← unpack 4 bs
    let (y, bs) ← unpack 4 bs
    let (z, bs) ← unpack 4 bs
    let (delta, bs) ← unpack 4 bs
    let (markers, bs) ← parseMarkers n bs
    some (⟨x, y, z, delta⟩ :: markers, bs)

/-- The loop of `parse3D` over the components. -/
def parseComponents : ℕ → List UInt8 → Option (List Component × List UInt8)
  | 0, bs => some ([], bs)
  | n + 1, bs => do
    let (cSize, bs) ← unpack 4 bs
    let (cType, bs) ← unpack 4 bs
    let (cFrame, bs) ← unpack 4 bs
    let (cTime, bs) ← unpack 8 bs
    let (markers, bs) ← if cType = 1 then do
        let (mCount, bs) ← unpack 4 bs
        parseMarkers mCount bs
      else some ([], bs)
    let (components, bs) ← parseComponents n bs
    some (⟨cSize, cType, cFrame, cTime, markers⟩ :: components, bs)

/-- `SledClient.parse3D`, for a packet of type 3: the components, and what follows them. -/
def parse3D (pContent : List UInt8) : Option (List Component × List UInt8) := do
  let (cCount, bs) ← unpack 4 pContent
  parseComponents cCount bs

lemma unpack_length {k : ℕ} {bs bs' : List UInt8} {n : ℕ} (h : unpack k bs = some (n, bs')) :
    bs.length = k + bs'.length := by
  unfold unpack at h
  split at h
  next hk =>
    obtain ⟨-, rfl⟩ := Prod.mk.inj (Option.some.inj h)
    rw [List.length_drop]
    omega
  next => cases h

/-- Each packet takes at least its header from the stream. -/
lemma receive_length {stream rest : List UInt8} {p : Received}
    (h : receive stream = some (p, rest)) : rest.length < stream.length := by
  obtain ⟨⟨pSize, s⟩, hsize, h⟩ := Option.bind_eq_some_iff.mp h
  obtain ⟨⟨pType, t⟩, htype, h⟩ := Option.bind_eq_some_iff.mp h
  have hs := unpack_length hsize
  have ht := unpack_length htype
  simp only at h
  split at h
  · split at h
    · obtain ⟨-, rfl⟩ := Prod.mk.inj (Option.some.inj h)
      rw [List.length_drop]
      omega
    · cases h
  · obtain ⟨-, rfl⟩ := Prod.mk.inj (Option.some.inj h)
    omega

/-- The calls of `receive` for all that the stream holds. -/
def receiveAll (stream : List UInt8) : Option (List Received) :=
  if stream = [] then some []
  else
    match _h : receive stream with
    | none => none
    | some (p, rest) => (receiveAll rest).map (p :: ·)
termination_by stream.length
decreasing_by exact receive_length (by assumption)

/-! ## What the functions store -/

section Bytes

variable {f g : Block → Option Block} {n k : ℕ} {bs cs : List UInt8}

/-- In a buffer that has been filled up to `n`, `f` stores `cs` behind what is there. -/
def Appends (f : Block → Option Block) (n : ℕ) (cs : List UInt8) : Prop :=
  ∀ d bs, bs.length = n → d.bytes n = bs → n + cs.length ≤ d.len →
    ∃ d', f d = some d' ∧ d'.len = d.len ∧ d'.bytes (n + cs.length) = bs ++ cs

lemma appends_put (n : ℕ) (cs : List UInt8) : Appends (Block.put n cs) n cs := by
  induction cs generalizing n with
  | nil =>
    intro d bs _ hbytes _
    exact ⟨d, rfl, rfl, by simpa using hbytes⟩
  | cons c cs ih =>
    intro d bs hlength hbytes hroom
    rw [List.length_cons] at hroom
    have hstore := Block.store_eq_some.mpr
      ⟨(by omega : n < d.len), (rfl : { d with cell := Function.update d.cell n c } = _)⟩
    have hdone : d.bytes bs.length = bs := by rw [hlength, hbytes]
    have hnext := Block.bytes_update hdone c
    rw [hlength] at hnext
    obtain ⟨d', hput, hlen, hbytes'⟩ := ih (n + 1) _ (bs ++ [c]) (by simp [hlength]) hnext
      (by simp only; omega)
    refine ⟨d', ?_, hlen, ?_⟩
    · rw [Block.put, hstore]
      exact hput
    · rw [List.length_cons, Nat.add_comm cs.length, ← Nat.add_assoc, hbytes']
      simp

lemma Appends.bind (hf : Appends f n bs) (hg : Appends g (n + bs.length) cs) :
    Appends (fun d => f d >>= g) n (bs ++ cs) := by
  intro d front hlength hbytes hroom
  rw [List.length_append] at hroom
  obtain ⟨d₁, hfd, hlen₁, hbytes₁⟩ := hf d front hlength hbytes (by omega)
  obtain ⟨d₂, hgd, hlen₂, hbytes₂⟩ := hg d₁ (front ++ bs) (by simp [hlength]) hbytes₁ (by omega)
  refine ⟨d₂, ?_, hlen₂.trans hlen₁, ?_⟩
  · simpa [hfd] using hgd
  · rw [List.length_append, ← Nat.add_assoc, hbytes₂, List.append_assoc]

/-- A buffer that has been filled from its beginning to its end is sent as it is. -/
lemma Appends.netSend (hf : Appends f 0 bs) (cells : ℕ → UInt8) (hk : bs.length = k) :
    (f ⟨k, cells⟩ >>= fun buf => SledServer.netSend buf k) = some bs := by
  obtain ⟨d, hfd, hlen, hbytes⟩ := hf ⟨k, cells⟩ [] rfl rfl (by simp [hk])
  rw [hfd]
  simp only [Option.bind_eq_bind, Option.bind_some, SledServer.netSend, hlen, le_refl, if_true]
  rw [Nat.zero_add, hk] at hbytes
  rw [hbytes, List.nil_append]

lemma little_htonl (x : UInt32) : little 4 (htonl x).toNat = big 4 x.toNat := by
  have hlt : swap 4 x.toNat < 2 ^ 32 := swap_lt 4 x.toNat
  rw [htonl, UInt32.toNat_ofNat', Nat.mod_eq_of_lt hlt, little_swap]

lemma appends_htonl (n : ℕ) (x : UInt32) :
    Appends (Block.putUint32 n (htonl x)) n (big 4 x.toNat) := by
  have h := appends_put n (little 4 (htonl x).toNat)
  rw [little_htonl] at h
  unfold Block.putUint32
  rwa [little_htonl]

/-- The lower half of an integer of 64 bits. -/
lemma toNat_lower (v : UInt64) : (v &&& 0xFFFFFFFF).toUInt32.toNat = v.toNat % 2 ^ 32 := by
  rw [UInt64.toNat_toUInt32, UInt64.toNat_and]
  have h : (0xFFFFFFFF : UInt64).toNat = 2 ^ 32 - 1 := rfl
  rw [h, Nat.and_two_pow_sub_one_eq_mod, Nat.mod_mod]

/-- The upper half of an integer of 64 bits. -/
lemma toNat_upper (v : UInt64) : (v >>> 32).toUInt32.toNat = v.toNat / 2 ^ 32 := by
  have hlt := v.toNat_lt
  have h : (32 : UInt64).toNat % 64 = 32 := rfl
  rw [UInt64.toNat_toUInt32, UInt64.toNat_shiftRight, h, Nat.shiftRight_eq_div_pow]
  exact Nat.mod_eq_of_lt (by omega)

/-- Two halves put together. -/
lemma toNat_halves (a b : UInt32) :
    (a.toUInt64 <<< 32 ||| b.toUInt64).toNat = b.toNat + 2 ^ 32 * a.toNat := by
  have ha := a.toNat_lt
  have hb := b.toNat_lt
  have h : (32 : UInt64).toNat % 64 = 32 := rfl
  have hshift : a.toNat <<< 32 % 2 ^ 64 = a.toNat <<< 32 := by
    rw [Nat.shiftLeft_eq]
    exact Nat.mod_eq_of_lt (by omega)
  rw [UInt64.toNat_or, UInt64.toNat_shiftLeft, h, UInt32.toNat_toUInt64, UInt32.toNat_toUInt64,
    hshift, ← Nat.shiftLeft_add_eq_or_of_lt hb, Nat.shiftLeft_eq, Nat.add_comm, Nat.mul_comm]

/-- The two halves are turned round, and change places. -/
lemma little_htonll (v : UInt64) : little 8 (htonll v).toNat = big 8 v.toNat := by
  have hlt := v.toNat_lt
  have hhost : (little 4 1).headD 0 = 1 := rfl
  have hlower : swap 4 (v.toNat % 2 ^ 32) < 2 ^ 32 := swap_lt 4 _
  have hupper : swap 4 (v.toNat / 2 ^ 32) < 2 ^ 32 := swap_lt 4 _
  have hvalue : (htonll v).toNat =
      swap 4 (v.toNat / 2 ^ 32) + 256 ^ 4 * swap 4 (v.toNat % 2 ^ 32) := by
    rw [htonll, if_pos hhost, toNat_halves, htonl, htonl, toNat_lower, toNat_upper,
      UInt32.toNat_ofNat', UInt32.toNat_ofNat', Nat.mod_eq_of_lt hlower, Nat.mod_eq_of_lt hupper]
    rfl
  have hsplit : v.toNat = v.toNat % 2 ^ 32 + 256 ^ 4 * (v.toNat / 2 ^ 32) :=
    (Nat.mod_add_div _ _).symm
  calc little 8 (htonll v).toNat
      = little 4 (swap 4 (v.toNat / 2 ^ 32)) ++ little 4 (swap 4 (v.toNat % 2 ^ 32)) := by
        rw [hvalue]
        exact little_append (j := 4) (k := 4) hupper hlower
    _ = big 4 (v.toNat / 2 ^ 32) ++ big 4 (v.toNat % 2 ^ 32) := by rw [little_swap, little_swap]
    _ = big 8 v.toNat := by
        have hbig := big_append (j := 4) (k := 4) (m := v.toNat % 2 ^ 32) (n := v.toNat / 2 ^ 32)
          (by omega) (by omega)
        rw [← hsplit] at hbig
        exact hbig.symm

lemma appends_htonll (n : ℕ) (v : UInt64) :
    Appends (Block.putUint64 n (htonll v)) n (big 8 v.toNat) := by
  have h := appends_put n (little 8 (htonll v).toNat)
  unfold Block.putUint64
  rwa [little_htonll] at h ⊢

/-! ### The packets -/

lemma appends_packetHeader (n : ℕ) (size type : UInt32) :
    Appends (rtc3dSetPacketHeader n size type) n (big 4 size.toNat ++ big 4 type.toNat) :=
  (appends_htonl n size).bind (appends_htonl (n + 4) type)

/-- The header of a component. -/
def componentBytes (size type frame : UInt32) (time : UInt64) : List UInt8 :=
  big 4 size.toNat ++ (big 4 type.toNat ++ (big 4 frame.toNat ++ big 8 time.toNat))

lemma appends_componentHeader (n : ℕ) (size type frame : UInt32) (time : UInt64) :
    Appends (rtc3dSetComponentHeader n size type frame time) n
      (componentBytes size type frame time) :=
  (appends_htonl n size).bind <| (appends_htonl (n + 4) type).bind <|
    (appends_htonl (n + 8) frame).bind <| appends_htonll (n + 12) time

def markerBytes (x y z delta : UInt32) : List UInt8 :=
  big 4 x.toNat ++ (big 4 y.toNat ++ (big 4 z.toNat ++ big 4 delta.toNat))

lemma appends_marker (n : ℕ) (x y z delta : UInt32) :
    Appends (rtc3dSetMarker n x y z delta) n (markerBytes x y z delta) :=
  (appends_htonl n x).bind <| (appends_htonl (n + 4) y).bind <|
    (appends_htonl (n + 8) z).bind <| appends_htonl (n + 12) delta

/-- What follows the header of a data frame. -/
def dataBody (frame : UInt32) (time : UInt64) (point : UInt32) : List UInt8 :=
  big 4 1 ++ (componentBytes 40 CTYPE_3D frame time ++ (big 4 1 ++ markerBytes point 0 0 0))

lemma length_dataBody (frame : UInt32) (time : UInt64) (point : UInt32) :
    (dataBody frame time point).length = 44 := by
  simp [dataBody, componentBytes, markerBytes]

lemma be32_eq (n : ℕ) : be32 n = big 4 n := by
  simp [be32, big, little, Nat.div_div_eq_div_mul]

lemma rtc3dSendData_eq (stack : ℕ → UInt8) (frame : UInt32) (time : UInt64) (point : UInt32) :
    rtc3dSendData stack frame time point =
      some (Packet.encode ⟨PTYPE_DATAFRAME, dataBody frame time point⟩) := by
  have happends := (appends_packetHeader 0 52 PTYPE_DATAFRAME).bind <|
    (appends_htonl 8 1).bind <| (appends_componentHeader 12 40 CTYPE_3D frame time).bind <|
      (appends_htonl 32 1).bind <| appends_marker 36 point 0 0 0
  have hbytes := length_dataBody frame time point
  have hencode : Packet.encode ⟨PTYPE_DATAFRAME, dataBody frame time point⟩ =
      big 4 52 ++ big 4 3 ++ dataBody frame time point := by
    simp only [Packet.encode, Packet.payload, be32_eq, hbytes, List.append_assoc]
    rfl
  rw [hencode]
  have hsend := happends.netSend (k := 52) stack (by simp [componentBytes, markerBytes])
  simp only [Option.bind_eq_bind, Option.bind_assoc] at hsend
  exact hsend

/-- A text that fits is sent as a packet of its type, if there is memory for it. -/
lemma sendText_eq {type : UInt32} {heap : Option (ℕ → UInt8)} {text : List UInt8}
    (hzero : 0 ∉ text) (hlength : text.length < 2 ^ 31 - 8) :
    sendText type heap text = some (if heap.isSome then Packet.encode ⟨type, text⟩ else []) := by
  have hstrlen : strlen text = text.length := by
    rw [strlen, List.takeWhile_eq_self_iff.mpr]
    intro b hb
    rw [decide_eq_true_eq]
    rintro rfl
    exact hzero hb
  have hint : ¬ 2 ^ 31 ≤ 8 + text.length := by omega
  simp only [sendText, hstrlen, if_neg hint]
  cases heap with
  | none => rfl
  | some cells =>
    have hsize : (UInt32.ofNat (8 + text.length)).toNat = 8 + text.length := by
      rw [UInt32.toNat_ofNat']
      exact Nat.mod_eq_of_lt (by omega)
    have happends := (appends_packetHeader 0 (UInt32.ofNat (8 + text.length)) type).bind
      (appends_put 8 text)
    have hencode : Packet.encode ⟨type, text⟩ =
        big 4 (UInt32.ofNat (8 + text.length)).toNat ++ big 4 type.toNat ++ text := by
      simp only [Packet.encode, Packet.payload, be32_eq, hsize, List.append_assoc]
    have hsend := happends.netSend (k := 8 + text.length) cells (by simp; omega)
    simp only [rtc3dSetPacketHeader, Option.bind_eq_bind, Option.bind_assoc] at hsend
    rw [Option.isSome_some, if_pos rfl, hencode, List.take_length]
    exact hsend

/-- The packet of a message. -/
def Message.packet : Message → Packet
  | .command text => ⟨UInt32.ofNat PTYPE_COMMAND, text⟩
  | .error text => ⟨PTYPE_ERROR, text⟩
  | .data frame time point => ⟨PTYPE_DATAFRAME, dataBody frame time point⟩

lemma SendCall.bytes_eq {c : SendCall} (hvalid : c.message.Valid) :
    c.bytes = some (if c.sends then c.message.packet.encode else []) := by
  obtain ⟨message, heap, stack⟩ := c
  cases message with
  | command text => exact sendText_eq hvalid.1 hvalid.2
  | error text => exact sendText_eq hvalid.1 hvalid.2
  | data frame time point => exact rtc3dSendData_eq stack frame time point

/-- Together, the calls give the packets of what they send to `net_send`. -/
lemma bytes_of_calls : ∀ {calls : List SendCall}, (∀ c ∈ calls, c.message.Valid) →
    ∃ chunks, calls.mapM SendCall.bytes = some chunks ∧ chunks.flatten =
      ((calls.filter SendCall.sends).map fun c => c.message.packet).flatMap Packet.encode
  | [], _ => ⟨[], rfl, rfl⟩
  | c :: calls, hvalid => by
    obtain ⟨chunks, hbytes, hflatten⟩ := bytes_of_calls fun d hd =>
      hvalid d (List.mem_cons_of_mem c hd)
    have hc := SendCall.bytes_eq (hvalid c List.mem_cons_self)
    refine ⟨_, by rw [List.mapM_cons, hc, hbytes]; rfl, ?_⟩
    rw [List.flatten_cons, hflatten]
    by_cases hsends : c.sends = true
    · simp [hsends]
    · simp [hsends]

end Bytes

/-! ## What the client reads -/

section Client

variable {k n : ℕ} {rest : List UInt8} {p : Packet}

/-- What `receive` makes of a packet. -/
def Packet.received (p : Packet) : Received := ⟨8 + p.body.length, p.type.toNat, p.body⟩

lemma unpack_big (hn : n < 256 ^ k) (rest : List UInt8) :
    unpack k (big k n ++ rest) = some (n, rest) := by
  have hlength := length_big k n
  rw [unpack, if_pos (by rw [List.length_append]; omega), List.take_left' hlength,
    List.drop_left' hlength, ofBig_big hn]

lemma unpack_uint32 (x : UInt32) (rest : List UInt8) :
    unpack 4 (big 4 x.toNat ++ rest) = some (x.toNat, rest) :=
  unpack_big x.toNat_lt rest

lemma receive_encode (hp : p.body.length < 2 ^ 32 - 8) (rest : List UInt8) :
    receive (p.encode ++ rest) = some (p.received, rest) := by
  have hsize : 8 + p.body.length - 8 = p.body.length := by omega
  simp only [receive, Packet.encode, Packet.payload, be32_eq, List.append_assoc]
  rw [unpack_big (by omega)]
  simp only [Option.bind_eq_bind, Option.bind_some]
  rw [unpack_uint32]
  simp only [Option.bind_some, hsize]
  by_cases hbody : p.body = []
  · simp [hbody, Packet.received]
  · have hpos := List.length_pos_iff.mpr hbody
    rw [if_pos (by omega), if_pos (by rw [List.length_append]; omega), List.take_left,
      List.drop_left]
    rfl

lemma receiveAll_encode (hp : p.body.length < 2 ^ 32 - 8) (rest : List UInt8) :
    receiveAll (p.encode ++ rest) = (receiveAll rest).map (p.received :: ·) := by
  have hne : p.encode ++ rest ≠ [] := by
    rw [← List.length_pos_iff, List.length_append, p.length_encode]
    omega
  rw [receiveAll, if_neg hne]
  split
  next h => simp [receive_encode hp] at h
  next q rest' h =>
    rw [receive_encode hp] at h
    obtain ⟨rfl, rfl⟩ := Prod.mk.inj (Option.some.inj h)
    rfl

lemma receiveAll_packets : ∀ {packets : List Packet},
    (∀ p ∈ packets, p.body.length < 2 ^ 32 - 8) →
    receiveAll (packets.flatMap Packet.encode) = some (packets.map Packet.received)
  | [], _ => by
    rw [List.flatMap_nil, receiveAll, if_pos rfl]
    rfl
  | p :: packets, hall => by
    rw [List.flatMap_cons, receiveAll_encode (hall p List.mem_cons_self),
      receiveAll_packets fun q hq => hall q (List.mem_cons_of_mem p hq)]
    rfl

lemma parseMarkers_one (x y z delta : UInt32) (rest : List UInt8) :
    parseMarkers 1 (markerBytes x y z delta ++ rest) =
      some ([⟨x.toNat, y.toNat, z.toNat, delta.toNat⟩], rest) := by
  simp only [parseMarkers, markerBytes, List.append_assoc, unpack_uint32, Option.bind_eq_bind,
    Option.bind_some]

lemma parse3D_dataBody (frame : UInt32) (time : UInt64) (point : UInt32) :
    parse3D (dataBody frame time point) =
      some ([⟨40, 1, frame.toNat, time.toNat, [⟨point.toNat, 0, 0, 0⟩]⟩], []) := by
  have hone : ∀ rest, unpack 4 (big 4 1 ++ rest) = some (1, rest) := fun rest =>
    unpack_big (by omega) rest
  have htime : ∀ rest, unpack 8 (big 8 time.toNat ++ rest) = some (time.toNat, rest) :=
    fun rest => unpack_big time.toNat_lt rest
  have hmarker := parseMarkers_one point 0 0 0 []
  have htype : CTYPE_3D.toNat = 1 := rfl
  rw [List.append_nil] at hmarker
  simp only [parse3D, dataBody, componentBytes, List.append_assoc, hone, Option.bind_eq_bind,
    Option.bind_some, parseComponents, unpack_uint32, htime, htype, if_true, hmarker]
  rfl

end Client

/-- The client has received this message. -/
def Received.Means (p : Received) : Message → Prop
  | .command text => p.pSize = 8 + text.length ∧ p.pType = 1 ∧ p.pContent = text
  | .error text => p.pSize = 8 + text.length ∧ p.pType = 0 ∧ p.pContent = text
  | .data frame time point => p.pSize = 8 + 4 + 40 ∧ p.pType = 3 ∧ p.pContent.length = 4 + 40 ∧
      parse3D p.pContent =
        some ([⟨40, 1, frame.toNat, time.toNat, [⟨point.toNat, 0, 0, 0⟩]⟩], [])

lemma means_received (m : Message) : m.packet.received.Means m := by
  cases m with
  | command text => exact ⟨rfl, rfl, rfl⟩
  | error text => exact ⟨rfl, rfl, rfl⟩
  | data frame time point =>
    have hlength := length_dataBody frame time point
    refine ⟨?_, rfl, hlength, parse3D_dataBody frame time point⟩
    simp only [Message.packet, Packet.received, hlength]

lemma Message.Valid.short {m : Message} (h : m.Valid) : m.packet.body.length < 2 ^ 32 - 8 := by
  cases m with
  | command text =>
    have hlength := h.2
    simp only [Message.packet]
    omega
  | error text =>
    have hlength := h.2
    simp only [Message.packet]
    omega
  | data frame time point =>
    simp only [Message.packet, length_dataBody]
    omega

/-- What the client reads from the bytes given to `net_send` is what has been sent, in this order.
A call that finds no memory sends nothing. -/
theorem packets_decode (calls : List SendCall) (hvalid : ∀ c ∈ calls, c.message.Valid) :
    ∃ chunks packets, calls.mapM SendCall.bytes = some chunks ∧
      receiveAll chunks.flatten = some packets ∧
      List.Forall₂ Received.Means packets ((calls.filter SendCall.sends).map SendCall.message) := by
  obtain ⟨chunks, hbytes, hflatten⟩ := bytes_of_calls hvalid
  have hshort : ∀ p ∈ (calls.filter SendCall.sends).map fun c => c.message.packet,
      p.body.length < 2 ^ 32 - 8 := by
    intro p hp
    obtain ⟨c, hc, rfl⟩ := List.mem_map.mp hp
    exact (hvalid c (List.mem_of_mem_filter hc)).short
  refine ⟨chunks, _, hbytes, by rw [hflatten, receiveAll_packets hshort], ?_⟩
  rw [List.map_map, List.forall₂_map_left_iff, List.forall₂_map_right_iff]
  exact List.forall₂_same.mpr fun c _ => means_received c.message

/-- The command `ok`, a data frame, and an error for which there is no memory. -/
theorem packets_decode_three :
    let calls : List SendCall :=
      [⟨.command [0x6f, 0x6b], some fun _ => 0, fun _ => 0⟩,
        ⟨.data 7 1500000 0x7fc00001, none, fun _ => 0xff⟩,
        ⟨.error [0x6e, 0x6f], none, fun _ => 0⟩]
    ∃ chunks packets, calls.mapM SendCall.bytes = some chunks ∧
      receiveAll chunks.flatten = some packets ∧
      List.Forall₂ Received.Means packets
        [.command [0x6f, 0x6b], .data 7 1500000 0x7fc00001] :=
  packets_decode _ (by simp [Message.Valid])

end SledServer
