import SledServer.Core.Expedited
import SledServer.Sled.Events

/-!
# The frames of an SDO transfer, byte by byte

`intf_send_write_req` writes the frame of an expedited download and `intf_dispatch_msg` reads the
frame of an expedited upload or of an abort.  Both are compared here with the format itself, which
is that of `SledServer.Core.Expedited`.

The interface keeps function pointers and knows nothing of the functions behind them, so
`intf_dispatch_msg` is taken here with whatever functions are registered (`Handlers`).  In the sled
they are those of `sledHandlers`, and `intfDispatchMsg` is the result.
-/

namespace SledServer

open SledServer.Core

/-! ## Dispatching, whatever is registered -/

/-- The functions registered in `intf_t` that `intf_dispatch_msg` may call. -/
structure Handlers (S : Type) where
  tpdoHandler : Option (ℕ → Vector UInt8 8 → S → Except Halt S)
  nmtStateHandler : Option (UInt8 → S → Except Halt S)
  writeCallback : Option (UInt16 → UInt8 → S → Except Halt S)
  readCallback : Option (UInt16 → UInt8 → UInt32 → S → Except Halt S)
  abortCallback : Option (UInt16 → UInt8 → UInt32 → S → Except Halt S)

namespace Handlers

variable {S : Type} (h : Handlers S)

/-- A function that takes an index, a subindex and a value, if there is one. -/
def call (f : Option (UInt16 → UInt8 → UInt32 → S → Except Halt S)) (index : UInt16)
    (subindex : UInt8) (value : UInt32) (s : S) : Except Halt S :=
  match f with
  | some f => f index subindex value s
  | none => .ok s

/-- The part of `intf_dispatch_msg` that handles an SDO response. -/
def dispatchSdo (data : Vector UInt8 8) (s : S) : Except Halt S :=
  if firstByte data = 0x60 then
    match h.writeCallback with
    | some f => f (sdoIndex data) (sdoSubindex data) s
    | none => .ok s
  else if firstByte data = 0x43 ∨ firstByte data = 0x47 ∨ firstByte data = 0x4B ∨
      firstByte data = 0x4F then
    call h.readCallback (sdoIndex data) (sdoSubindex data) (sdoValue data) s
  else if firstByte data = 0x80 then
    call h.abortCallback (sdoIndex data) (sdoSubindex data) (sdoValue data) s
  else .ok s

/-- `intf_dispatch_msg`. -/
def dispatchMsg (msg : CanMessage) (s : S) : Except Halt S :=
  let function := (msg.id >>> 7).toNat
  if function = 0x03 ∨ function = 0x05 ∨ function = 0x07 ∨ function = 0x09 then
    match h.tpdoHandler with
    | some f => f ((function - 1) / 2) msg.data s
    | none => .ok s
  else if function = 0x0E then
    match h.nmtStateHandler with
    | some f => f (firstByte msg.data &&& 0x7F) s
    | none => .ok s
  else if function = 0x0B then h.dispatchSdo msg.data s
  else .ok s

end Handlers

/-- The functions registered in the sled. -/
def sledHandlers (now : ℚ) (intf : Intf) : Handlers Sled where
  tpdoHandler := some (intfOnTpdo now)
  nmtStateHandler := some (intfOnNmt now)
  writeCallback := if intf.writeCallback then some (mchSdoWriteCallback sledCallbacks) else none
  readCallback := if intf.readCallback then some (mchSdoReadCallback sledCallbacks) else none
  abortCallback := if intf.abortCallback then some (mchSdoAbortCallback sledCallbacks) else none

/-- What the sled does with a frame is what `intf_dispatch_msg` does with the functions of the
sled registered. -/
theorem intfDispatchMsg_eq (now : ℚ) (msg : CanMessage) (s : Sled) :
    intfDispatchMsg now msg s = (sledHandlers now s.intf).dispatchMsg msg s := by
  have hsdo : dispatchSdo msg.data s = (sledHandlers now s.intf).dispatchSdo msg.data s := by
    unfold dispatchSdo Handlers.dispatchSdo Handlers.call sledHandlers
    cases s.intf.writeCallback <;> cases s.intf.readCallback <;> cases s.intf.abortCallback <;> rfl
  unfold intfDispatchMsg Handlers.dispatchMsg
  rw [hsdo]
  rfl

/-! ## Frames by the rules -/

/-- A frame that a node of the network sends in answer to a request. -/
def sdoResponse (node : Fin 128) (data : Vector UInt8 8) : CanMessage where
  id := 0x580 + UInt16.ofNat node
  type := 0
  len := 8
  data := data

lemma function_sdoResponse (node : Fin 128) (data : Vector UInt8 8) :
    ((sdoResponse node data).id >>> 7).toNat = 0x0B := by
  have h := node.isLt
  have hid : (sdoResponse node data).id.toNat = 0x580 + node := by
    simp [sdoResponse]
    omega
  simp [Nat.shiftRight_eq_div_pow, hid]
  omega

section

variable {S : Type} (h : Handlers S) (s : S) (node : Fin 128) (data : Vector UInt8 8)

lemma dispatchMsg_sdoResponse :
    h.dispatchMsg (sdoResponse node data) s = h.dispatchSdo data s := by
  unfold Handlers.dispatchMsg
  simp only [function_sdoResponse]
  rfl

end

/-! ## The index and the value in a response -/

lemma sdoIndex_eq (data : Vector UInt8 8) :
    sdoIndex data = UInt16.ofNat (ofLittle (indexBytes data)) := by
  have h₁ := (data[1]).toNat_lt
  have h₂ := (data[2]).toNat_lt
  apply UInt16.toNat_inj.mp
  simp [sdoIndex, Nat.shiftLeft_eq]
  omega

/-- The value read from a response is that of the bytes that its first byte announces. -/
lemma toNat_sdoValue {data : Vector UInt8 8} {size : ℕ} (hpos : 1 ≤ size) (hle : size ≤ 4)
    (hcommand : firstByte data = Transfer.upload.command size) :
    (sdoValue data).toNat = ofLittle ((valueBytes data).take size) := by
  have hsize : size = 1 ∨ size = 2 ∨ size = 3 ∨ size = 4 := by omega
  rcases hsize with rfl | rfl | rfl | rfl
  · have h : data[0] = 0x4F := hcommand
    simp [sdoValue, h]
  · have h : data[0] = 0x4B := hcommand
    rw [sdoValue, h]
    exact toNat_word₂ _ _
  · have h : data[0] = 0x47 := hcommand
    rw [sdoValue, h]
    exact toNat_word₃ _ _ _
  · have h : data[0] = 0x43 := hcommand
    rw [sdoValue, h]
    exact toNat_word₄ _ _ _ _

lemma sdoValue_encode (unused : Vector UInt8 4) (x : Expedited) :
    sdoValue (x.encode .upload unused) = UInt32.ofNat x.value := by
  apply UInt32.toNat_inj.mp
  rw [toNat_sdoValue x.one_le_size x.size_le rfl, UInt32.toNat_ofNat_of_lt' x.value_lt_word]
  exact x.ofLittle_take_bytes

lemma sdoValue_abortTransfer (index : UInt16) (subindex : UInt8) (code : UInt32) :
    sdoValue (abortTransfer index subindex code) = code := by
  apply UInt32.toNat_inj.mp
  rw [← ofLittle_word code]
  exact toNat_word₄ _ _ _ _

section

variable {S : Type} (h : Handlers S)

/-- An upload of one to four bytes is handed to the function registered for reads, with the index,
the subindex and the value that the frame carries. -/
lemma dispatchSdo_encode (unused : Vector UInt8 4) (x : Expedited) :
    h.dispatchSdo (x.encode .upload unused) =
      Handlers.call h.readCallback x.index x.subindex (UInt32.ofNat x.value) := by
  have hindex : sdoIndex (x.encode .upload unused) = x.index := by
    rw [sdoIndex_eq]
    exact Expedited.ofLittle_index x.index
  have hcommand : ∀ size, size = 1 ∨ size = 2 ∨ size = 3 ∨ size = 4 →
      Transfer.upload.command size ≠ 0x60 ∧
      (Transfer.upload.command size = 0x43 ∨ Transfer.upload.command size = 0x47 ∨
        Transfer.upload.command size = 0x4B ∨ Transfer.upload.command size = 0x4F) := by
    rintro size (rfl | rfl | rfl | rfl) <;> decide
  obtain ⟨hwrite, hread⟩ := hcommand x.size x.size_cases
  funext s
  unfold Handlers.dispatchSdo
  rw [if_neg (by exact hwrite), if_pos (by exact hread), hindex, sdoValue_encode]
  rfl

/-- An abort is handed to the function registered for aborts, with its code. -/
lemma dispatchSdo_abortTransfer (index : UInt16) (subindex : UInt8) (code : UInt32) :
    h.dispatchSdo (abortTransfer index subindex code) =
      Handlers.call h.abortCallback index subindex code := by
  have hindex : sdoIndex (abortTransfer index subindex code) = index := by
    rw [sdoIndex_eq]
    exact Expedited.ofLittle_index index
  funext s
  unfold Handlers.dispatchSdo
  rw [hindex, sdoValue_abortTransfer]
  rfl

end

/-! ## The frame of a write request -/

/-- The eight bytes of a write request are those of an expedited download, with zeros in the bytes
that are not used. -/
lemma writeReqFrame_data (x : Expedited) :
    (writeReqFrame x.index x.subindex (UInt32.ofNat x.value) (UInt8.ofNat x.size)).data =
      x.encode .download (Vector.replicate 4 0) := by
  have hcommand : ∀ size, size = 1 ∨ size = 2 ∨ size = 3 ∨ size = 4 →
      (0x2F - (UInt8.ofNat size - 1) * 4 : UInt8) = Transfer.download.command size := by
    rintro size (rfl | rfl | rfl | rfl) <;> decide
  have hbyte : ∀ i < 4,
      x.byte (Vector.replicate 4 0) i = UInt8.ofNat (x.value / 256 ^ i) := by
    intro i hi
    unfold Expedited.byte
    split
    · rfl
    · have hlt : x.value < 256 ^ i :=
        lt_of_lt_of_le x.value_lt (Nat.pow_le_pow_right (by norm_num) (by omega))
      rw [Nat.div_eq_of_lt hlt, Vector.toList_replicate,
        List.getD_eq_getElem?_getD, List.getElem?_replicate, if_pos hi]
      rfl
  have hlow : (x.index &&& 0x00FF).toUInt8 = x.index.toUInt8 := by
    rw [UInt16.toUInt8_and]
    exact UInt8.and_neg_one
  have hhigh : ((x.index &&& 0xFF00) >>> 8).toUInt8 = (x.index >>> 8).toUInt8 := by
    rw [UInt16.shiftRight_and, UInt16.toUInt8_and]
    exact UInt8.and_neg_one
  have h₀ : (UInt32.ofNat x.value &&& 0x000000FF).toUInt8 = x.byte (Vector.replicate 4 0) 0 := by
    rw [hbyte _ (by decide)]
    exact (masked_byte _ (k := 0) rfl).trans (byte_ofNat x.value_lt_word (by decide))
  have h₁ : ((UInt32.ofNat x.value &&& 0x0000FF00) >>> 8).toUInt8 =
      x.byte (Vector.replicate 4 0) 1 := by
    rw [hbyte _ (by decide), masked_byte _ rfl]
    exact byte_ofNat x.value_lt_word (by decide)
  have h₂ : ((UInt32.ofNat x.value &&& 0x00FF0000) >>> 16).toUInt8 =
      x.byte (Vector.replicate 4 0) 2 := by
    rw [hbyte _ (by decide), masked_byte _ rfl]
    exact byte_ofNat x.value_lt_word (by decide)
  have h₃ : ((UInt32.ofNat x.value &&& 0xFF000000) >>> 24).toUInt8 =
      x.byte (Vector.replicate 4 0) 3 := by
    rw [hbyte _ (by decide), masked_byte _ rfl]
    exact byte_ofNat x.value_lt_word (by decide)
  simp only [writeReqFrame, Expedited.encode, hcommand x.size x.size_cases, hlow, hhigh, h₀, h₁, h₂,
    h₃]

/-! ## The codec -/

/-- A write request of one to four bytes is the frame that carries its index, subindex, size and
value; and the frame that carries an upload of one to four bytes, or an abort, is handed with its
index, subindex and value to the function registered for it, and to no other. -/
theorem sdoCodec_exact :
    (∀ (x : Expedited) (intf : Intf), ∃ frame,
      (intfSendWriteReq x.index x.subindex
          (UInt32.ofNat x.value) (UInt8.ofNat x.size) intf).written =
        intf.written ++ [frame] ∧
      Expedited.decode? .download frame.data = some x) ∧
    (∀ {S : Type} (h : Handlers S) (node : Fin 128) (s : S),
      (∀ (x : Expedited) (unused : Vector UInt8 4),
        h.dispatchMsg (sdoResponse node (x.encode .upload unused)) s =
          Handlers.call h.readCallback x.index x.subindex (UInt32.ofNat x.value) s) ∧
      ∀ (index : UInt16) (subindex : UInt8) (code : UInt32),
        h.dispatchMsg (sdoResponse node (abortTransfer index subindex code)) s =
          Handlers.call h.abortCallback index subindex code s) := by
  constructor
  · intro x intf
    refine ⟨writeReqFrame x.index x.subindex (UInt32.ofNat x.value) (UInt8.ofNat x.size), rfl, ?_⟩
    rw [writeReqFrame_data]
    exact Expedited.decode?_encode .download _ x
  · intro S h node s
    constructor
    · intro x unused
      rw [dispatchMsg_sdoResponse, dispatchSdo_encode]
    · intro index subindex code
      rw [dispatchMsg_sdoResponse, dispatchSdo_abortTransfer]

end SledServer
