import SledServer.Core.Endian

/-!
# Expedited transfers

CANopen moves an object of one to four bytes in a single frame of eight.  The first byte says which
way the object moves, in its upper three bits, and how many of the last four bytes are not used;
the next three are the index, least significant byte first, and the subindex; the last four hold the
object, least significant byte first (CiA 301).

`Expedited` is such an object, `encode` is the frame that carries it and `decode?` reads a frame.
What stands in the bytes that are not used is up to the sender.

Nothing here mentions a particular program.
-/

namespace SledServer.Core

/-- An object of one to four bytes and its place in the object dictionary. -/
@[ext]
structure Expedited where
  index : UInt16
  subindex : UInt8
  size : ℕ
  value : ℕ
  one_le_size : 1 ≤ size
  size_le : size ≤ 4
  value_lt : value < 256 ^ size
  deriving DecidableEq

/-- Which frame it is: the request of a download or the response of an upload. -/
inductive Transfer
  | download
  | upload
  deriving DecidableEq, Repr

/-- The command specifier, the upper three bits of the first byte. -/
def Transfer.specifier : Transfer → UInt8
  | download => 1
  | upload => 2

/-- The first byte: the specifier, the number of bytes not used, and the two bits that mark an
expedited transfer of that size. -/
def Transfer.command (t : Transfer) (size : ℕ) : UInt8 :=
  (t.specifier <<< 5) ||| (UInt8.ofNat (4 - size) <<< 2) ||| 3

namespace Expedited

/-- The last four bytes of the frame. -/
def byte (x : Expedited) (unused : Vector UInt8 4) (i : ℕ) : UInt8 :=
  if i < x.size then UInt8.ofNat (x.value / 256 ^ i) else unused.toList.getD i 0

/-- The frame that carries `x`. -/
def encode (t : Transfer) (unused : Vector UInt8 4) (x : Expedited) : Vector UInt8 8 :=
  #v[t.command x.size, x.index.toUInt8, (x.index >>> 8).toUInt8, x.subindex,
    x.byte unused 0, x.byte unused 1, x.byte unused 2, x.byte unused 3]

/-- The size that the first byte of a frame announces. -/
def announced (command : UInt8) : ℕ := 4 - (command >>> 2).toNat % 4

/-- The object that a frame carries, if it is such a frame. -/
def decode? (t : Transfer) (data : Vector UInt8 8) : Option Expedited :=
  match data.toList with
  | [command, low, high, subindex, b₀, b₁, b₂, b₃] =>
    if command >>> 5 = t.specifier ∧ command &&& 3 = 3 then
      some
        { index := UInt16.ofNat (ofLittle [low, high])
          subindex := subindex
          size := announced command
          value := ofLittle ([b₀, b₁, b₂, b₃].take (announced command))
          one_le_size := by
            unfold announced
            omega
          size_le := by
            unfold announced
            omega
          value_lt := by
            refine lt_of_lt_of_le (ofLittle_lt _) (Nat.pow_le_pow_right (by norm_num) ?_)
            exact List.length_take_le _ _ }
    else none
  | _ => none

section

variable {t : Transfer} {unused : Vector UInt8 4} {x : Expedited}

lemma value_lt_word (x : Expedited) : x.value < 2 ^ 32 :=
  lt_of_lt_of_le x.value_lt (Nat.pow_le_pow_right (by norm_num) x.size_le)

lemma size_cases (x : Expedited) : x.size = 1 ∨ x.size = 2 ∨ x.size = 3 ∨ x.size = 4 := by
  have h := x.one_le_size
  have h' := x.size_le
  omega

/-- The last four bytes of the frame, as far as they are used, are those of the value. -/
lemma take_bytes :
    [x.byte unused 0, x.byte unused 1, x.byte unused 2, x.byte unused 3].take x.size =
    little x.size x.value := by
  rcases x.size_cases with h | h | h | h <;>
    simp [byte, h, little, Nat.div_div_eq_div_mul]

lemma ofLittle_take_bytes :
    ofLittle ([x.byte unused 0, x.byte unused 1, x.byte unused 2, x.byte unused 3].take x.size) =
      x.value := by
  rw [take_bytes, ofLittle_little, Nat.mod_eq_of_lt x.value_lt]

lemma command_specifier : t.command x.size >>> 5 = t.specifier ∧ t.command x.size &&& 3 = 3 := by
  rcases x.size_cases with h | h | h | h <;> rw [h] <;> cases t <;> decide

lemma announced_command : announced (t.command x.size) = x.size := by
  rcases x.size_cases with h | h | h | h <;> rw [h] <;> cases t <;> decide

/-- The two bytes of an index, the least significant one first. -/
lemma ofLittle_index (n : UInt16) : UInt16.ofNat (ofLittle [n.toUInt8, (n >>> 8).toUInt8]) = n := by
  have hlt := n.toNat_lt
  have hbytes : ofLittle [n.toUInt8, (n >>> 8).toUInt8] = n.toNat := by
    simp [Nat.shiftRight_eq_div_pow]
    omega
  rw [hbytes, UInt16.ofNat_toNat]

/-- Reading the frame that carries an object gives the object. -/
theorem decode?_encode (t : Transfer) (unused : Vector UInt8 4) (x : Expedited) :
    decode? t (x.encode t unused) = some x := by
  have hlist : (x.encode t unused).toList = [t.command x.size, x.index.toUInt8,
      (x.index >>> 8).toUInt8, x.subindex, x.byte unused 0, x.byte unused 1, x.byte unused 2,
      x.byte unused 3] := rfl
  have hvalue : ofLittle ([x.byte unused 0, x.byte unused 1, x.byte unused 2,
      x.byte unused 3].take (announced (t.command x.size))) = x.value := by
    rw [announced_command]
    exact ofLittle_take_bytes
  unfold decode?
  rw [hlist]
  dsimp only
  rw [if_pos command_specifier]
  exact congrArg some (Expedited.ext (ofLittle_index x.index) rfl announced_command hvalue)

end

end Expedited

/-- The frame that refuses a transfer, with the reason. -/
def abortTransfer (index : UInt16) (subindex : UInt8) (code : UInt32) : Vector UInt8 8 :=
  #v[0x80, index.toUInt8, (index >>> 8).toUInt8, subindex, code.toUInt8, (code >>> 8).toUInt8,
    (code >>> 16).toUInt8, (code >>> 24).toUInt8]

/-! ## Words of up to four bytes -/

section

variable {n : ℕ} (w : UInt32) (b₀ b₁ b₂ b₃ : UInt8)

lemma toNat_word₂ : (b₀.toUInt32 + (b₁.toUInt32 <<< 8)).toNat = ofLittle [b₀, b₁] := by
  have h₀ := b₀.toNat_lt
  have h₁ := b₁.toNat_lt
  simp [Nat.shiftLeft_eq]
  omega

lemma toNat_word₃ :
    (b₀.toUInt32 + (b₁.toUInt32 <<< 8) + (b₂.toUInt32 <<< 16)).toNat = ofLittle [b₀, b₁, b₂] := by
  have h₀ := b₀.toNat_lt
  have h₁ := b₁.toNat_lt
  have h₂ := b₂.toNat_lt
  simp [Nat.shiftLeft_eq]
  omega

lemma toNat_word₄ :
    (b₀.toUInt32 + (b₁.toUInt32 <<< 8) + (b₂.toUInt32 <<< 16) + (b₃.toUInt32 <<< 24)).toNat =
      ofLittle [b₀, b₁, b₂, b₃] := by
  have h₀ := b₀.toNat_lt
  have h₁ := b₁.toNat_lt
  have h₂ := b₂.toNat_lt
  have h₃ := b₃.toNat_lt
  simp [Nat.shiftLeft_eq]
  omega

/-- The four bytes of a word. -/
lemma ofLittle_word :
    ofLittle [w.toUInt8, (w >>> 8).toUInt8, (w >>> 16).toUInt8, (w >>> 24).toUInt8] = w.toNat := by
  have h := w.toNat_lt
  simp [Nat.shiftRight_eq_div_pow]
  omega

/-- A byte of a word, cut out with a mask. -/
lemma masked_byte {mask k : UInt32} (h : (mask >>> k).toUInt8 = -1) :
    ((w &&& mask) >>> k).toUInt8 = (w >>> k).toUInt8 := by
  rw [UInt32.shiftRight_and, UInt32.toUInt8_and, h, UInt8.and_neg_one]

/-- A byte of a number below `2 ^ 32`. -/
lemma byte_ofNat (hn : n < 2 ^ 32) {k : UInt32} (hk : k.toNat < 32) :
    (UInt32.ofNat n >>> k).toUInt8 = UInt8.ofNat (n / 2 ^ k.toNat) := by
  apply UInt8.toNat_inj.mp
  rw [UInt32.toNat_toUInt8, UInt32.toNat_shiftRight, UInt32.toNat_ofNat_of_lt' hn,
    UInt8.toNat_ofNat', Nat.mod_eq_of_lt hk, Nat.shiftRight_eq_div_pow]

end

end SledServer.Core
