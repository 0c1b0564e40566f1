import Mathlib.Tactic.IntervalCases
import SledServer.Server.Packets
import SledServer.Server.ProfileSet

/-!
# Streams of bytes from the clients

What the reader of `rtc3d.cc` does with bytes that need not be packets.  The length that a client
declares goes through a subtraction in 32 bits, decides how much memory is allocated, and is cut to
8 bits; `reader_survives_iff` says which lengths the reader gets over.

A command can also end the connection.  It is freed three calls below the loop of the reader, which
then goes on to use it; `closed_untouched_iff` says that a stream without an accepted `Bye` is the
only kind for which a freed connection is left alone.
-/

namespace SledServer

open SledServer.Core

variable {σ : Type}

/-! ## Progress of the reader -/

section Progress

variable {V : Rtc3dServer σ} {r r' : Reader σ} {b : UInt8}

/-- The reader waits for the length, or for the payload of a packet for which it has room: the
next byte has its place after those that have been received. -/
def Reader.Sound (r : Reader σ) : Prop :=
  (1 ≤ r.conn.sizeLeft ∧ r.conn.sizeLeft ≤ 4) ∨
    (r.conn.sizeLeft = 0 ∧ 0 < r.conn.dataLeft ∧ r.conn.dataLeft ≤ r.conn.size ∧
      r.conn.data.len = r.conn.size + 1 ∧
      r.conn.size - r.conn.dataLeft = r.received.length)

instance (r : Reader σ) : Decidable r.Sound := inferInstanceAs (Decidable (_ ∨ _))

/-- The reader has not reached past the data buffer, its fields are sound, and it does not ignore
all that may come. -/
def Survives (V : Rtc3dServer σ) : Except Fault (Reader σ) → Prop
  | .ok r => r.Sound ∧ ∃ later, run (readByte V) r later ≠ .ok r
  | .error f => f ≠ .store ∧ f ≠ .terminator ∧ f ≠ .type

/-- The byte does not complete a length below 5 or above 259, nor a packet that is too short to
hold three of the four bytes of its type. -/
def LengthFits (r : Reader σ) (b : UInt8) : Prop :=
  (r.conn.sizeLeft = 1 → 5 ≤ setByte r.conn.size 0 b ∧ setByte r.conn.size 0 b ≤ 259) ∧
    (r.conn.sizeLeft = 0 → r.conn.dataLeft = 1 → 3 ≤ r.conn.size)

/-- The bytes of the length that have come are the upper ones. -/
structure Reader.InLength (r : Reader σ) : Prop where
  pos : 1 ≤ r.conn.sizeLeft
  le : r.conn.sizeLeft ≤ 4
  lower : r.conn.size % 256 ^ r.conn.sizeLeft = 0
  lt : r.conn.size < 2 ^ 32

/-- Part of the payload has come, and the rest can be counted in eight bits. -/
structure Reader.InPayload (r : Reader σ) : Prop where
  sizeLeft : r.conn.sizeLeft = 0
  dataLeft : 0 < r.conn.dataLeft
  le : r.conn.dataLeft ≤ r.conn.size
  len : r.conn.data.len = r.conn.size + 1
  small : r.conn.size < 2 ^ 8
  received : r.conn.size - r.conn.dataLeft = r.received.length

/-- The states that the reader is in as long as the lengths fit. -/
structure Reader.Ready (r : Reader σ) : Prop where
  live : r.live = true
  progress : r.InLength ∨ r.InPayload

lemma Reader.Ready.inLength (h : r.Ready) (hsize : 0 < r.conn.sizeLeft) : r.InLength := by
  cases h.progress with
  | inl hlength => exact hlength
  | inr hpayload => exact absurd hpayload.sizeLeft (by omega)

lemma Reader.Ready.inPayload (h : r.Ready) (hsize : r.conn.sizeLeft = 0) : r.InPayload := by
  cases h.progress with
  | inl hlength => exact absurd hlength.pos (by omega)
  | inr hpayload => exact hpayload

lemma Reader.Ready.sound (h : r.Ready) : r.Sound := by
  cases h.progress with
  | inl hlength => exact .inl ⟨hlength.pos, hlength.le⟩
  | inr hpayload =>
    exact .inr ⟨hpayload.sizeLeft, hpayload.dataLeft, hpayload.le, hpayload.len, hpayload.received⟩

/-- A byte that is waited for is counted. -/
lemma readByte_counts (h : readByte V r b = .ok r')
    (hwait : 0 < r.conn.sizeLeft ∨ 0 < r.conn.dataLeft) :
    r'.conn.sizeLeft ≠ r.conn.sizeLeft ∨ r'.conn.dataLeft ≠ r.conn.dataLeft := by
  obtain ⟨-, heffect⟩ := readByte_effect h
  cases heffect with
  | header hsize =>
    left
    by_cases hone : r.conn.sizeLeft = 1
    · rw [headerByte_of_one hone]
      simp only [Reader.headed]
      omega
    · rw [headerByte_of_one_lt (by omega), Reader.counted_sizeLeft]
      omega
  | payload hsize hdata hstore =>
    right
    simp only [Reader.stored]
    omega
  | packet hsize hdata hstore hcall hlive =>
    left
    simp only [Reader.freed]
    omega
  | ignored hsize hdata => omega

lemma Reader.Ready.survives (h : r.Ready) : Survives V (.ok r) := by
  refine ⟨h.sound, [0], fun hrun => ?_⟩
  have hbyte : readByte V r 0 = .ok r := by simpa [run] using hrun
  have hwait : 0 < r.conn.sizeLeft ∨ 0 < r.conn.dataLeft :=
    h.progress.imp (fun hlength => hlength.pos) fun hpayload => hpayload.dataLeft
  cases readByte_counts hbyte hwait with
  | inl hsize => exact hsize rfl
  | inr hdata => exact hdata rfl

/-! ## One byte -/

/-- The upper bytes of a length, with the next one. -/
lemma inLength_counted (h : r.InLength) (hone : r.conn.sizeLeft ≠ 1) : (r.counted b).InLength := by
  have hb := b.toNat_lt
  have hle := h.le
  have hpos := h.pos
  have hlower := h.lower
  have hlt := h.lt
  generalize hk : r.conn.sizeLeft = k at hle hpos hlower hone
  have hsize : (r.counted b).conn.size = setByte r.conn.size (k - 1) b := by
    rw [Reader.counted_size, hk]
  have hleft : (r.counted b).conn.sizeLeft = k - 1 := by rw [Reader.counted_sizeLeft, hk]
  refine ⟨by omega, by omega, ?_, ?_⟩
  · rw [hsize, hleft, setByte]
    interval_cases k <;> omega
  · rw [hsize, setByte]
    interval_cases k <;> omega

/-- With the last byte, the length is some integer of 32 bits. -/
lemma length_lt (h : r.InLength) (hone : r.conn.sizeLeft = 1) :
    setByte r.conn.size 0 b < 2 ^ 32 := by
  have hb := b.toNat_lt
  have hlower := h.lower
  have hlt := h.lt
  rw [hone] at hlower
  unfold setByte
  omega

lemma sub32_length {n : ℕ} (hn : n < 2 ^ 32) :
    5 ≤ n ∧ n ≤ 259 ↔ 0 < sub32 n 4 ∧ sub32 n 4 < 2 ^ 8 := by
  unfold sub32
  omega

lemma ready_headed (hlive : r.live = true) {size : ℕ} (hpos : 0 < size) (hlt : size < 2 ^ 8) :
    (r.headed V size).Ready := by
  have hmod : size % 2 ^ 8 = size := Nat.mod_eq_of_lt hlt
  refine ⟨hlive, .inr ⟨rfl, ?_, ?_, ?_, hlt, ?_⟩⟩
  · simp only [Reader.headed]
    omega
  · simp only [Reader.headed]
    omega
  · simp only [Reader.headed]
    omega
  · simp only [Reader.headed, hmod, List.length_nil]
    omega

/-- Of a length that does not fit, too little is counted. -/
lemma not_sound_headed {size : ℕ} (h : ¬ (0 < size ∧ size < 2 ^ 8)) :
    ¬ (r.headed V size).Sound := by
  rintro (⟨hpos, -⟩ | ⟨-, hdata, hle, hlen, hreceived⟩)
  · exact absurd hpos (by simp [Reader.headed])
  · simp only [Reader.headed, List.length_nil] at hdata hle hlen hreceived
    omega

/-- In the middle of a payload that can be counted, the next byte has its place. -/
lemma Reader.InPayload.store (h : r.InPayload) (b : UInt8) :
    ∃ data, r.conn.data.store (sub32 r.conn.size r.conn.dataLeft) b = some data ∧
      data.len = r.conn.size + 1 := by
  have hle := h.le
  have hlen := h.len
  have hdata := h.dataLeft
  have hsmall := h.small
  refine ⟨_, Block.store_eq_some.mpr ⟨?_, rfl⟩, hlen⟩
  rw [sub32_of_le hle (by omega)]
  omega

/-- The packet handler stays inside a buffer that is large enough for the type. -/
lemma packetHandler_error {f : Fault} (h : packetHandler V r = .error f)
    (hlen : r.conn.data.len = r.conn.size + 1) (hsize : 3 ≤ r.conn.size) :
    f = .text ∨ ∃ halt, f = .process halt := by
  have htype : ∃ type, r.conn.data.getUint32 0 = some type := by
    unfold Block.getUint32
    exact ⟨_, if_pos (by omega)⟩
  obtain ⟨type, htype⟩ := htype
  have hstore : ∃ data, r.conn.data.store r.conn.size 0 = some data :=
    ⟨_, Block.store_eq_some.mpr ⟨by omega, rfl⟩⟩
  obtain ⟨data, hstore⟩ := hstore
  rw [packetHandler, htype, hstore] at h
  simp only [inside, ok_bind] at h
  split at h
  · cases htext : data.text 4 with
    | none =>
      rw [htext] at h
      simp only [error_bind] at h
      cases h
      exact .inl rfl
    | some text =>
      rw [htext] at h
      simp only [ok_bind] at h
      split at h
      · cases h
        exact .inr ⟨_, rfl⟩
      · cases h
  · cases h

/-- A type of which more than one byte is missing is read from outside the buffer. -/
lemma packetHandler_short (hlen : r.conn.data.len = r.conn.size + 1) (hsize : r.conn.size < 3) :
    packetHandler V r = .error .type := by
  have htype : r.conn.data.getUint32 0 = none := by
    unfold Block.getUint32
    exact if_neg (by omega)
  rw [packetHandler, htype]
  rfl

lemma ready_step (hr : r.Ready) (hfits : LengthFits r b) (h : readByte V r b = .ok r') :
    r'.Ready := by
  obtain ⟨hlive, heffect⟩ := readByte_effect h
  cases heffect with
  | header hsize =>
    have hlength := hr.inLength (by omega)
    by_cases hone : r.conn.sizeLeft = 1
    · obtain ⟨hpos, hlt⟩ := (sub32_length (length_lt hlength hone)).mp (hfits.1 hone)
      rw [headerByte_of_one hone]
      exact ready_headed hlive hpos hlt
    · rw [headerByte_of_one_lt (by omega)]
      exact ⟨hlive, .inl (inLength_counted hlength hone)⟩
  | payload hsize hdata hstore =>
    have hpayload := hr.inPayload hsize
    obtain ⟨-, rfl⟩ := Block.store_eq_some.mp hstore
    have hle := hpayload.le
    have hreceived := hpayload.received
    refine ⟨hlive, .inr ⟨hsize, ?_, ?_, hpayload.len, hpayload.small, ?_⟩⟩
    · simp only [Reader.stored]
      omega
    · simp only [Reader.stored]
      omega
    · simp only [Reader.stored, List.length_append, List.length_singleton]
      omega
  | packet hsize hdata hstore hcall hlive' =>
    exact ⟨hlive', .inl ⟨by simp [Reader.freed], le_rfl, by simp [Reader.freed],
      by simp [Reader.freed]⟩⟩
  | ignored hsize hdata => exact hr

lemma survives_step (hr : r.Ready) (hfits : LengthFits r b) : Survives V (readByte V r b) := by
  cases hbyte : readByte V r b with
  | ok r' => exact (ready_step hr hfits hbyte).survives
  | error f =>
    cases hr.progress with
    | inl hlength =>
      rw [readByte_of_header hr.live hlength.pos] at hbyte
      cases hbyte
    | inr hpayload =>
      obtain ⟨data, hstore, hlen⟩ := hpayload.store b
      have hdata := hpayload.dataLeft
      by_cases hone : r.conn.dataLeft = 1
      · rw [readByte_of_packet hr.live hpayload.sizeLeft hone hstore] at hbyte
        cases hcall : packetHandler V (r.called data b) with
        | error g =>
          rw [hcall] at hbyte
          cases hbyte
          have hsize : 3 ≤ r.conn.size := hfits.2 hpayload.sizeLeft hone
          obtain rfl | ⟨halt, rfl⟩ := packetHandler_error hcall hlen hsize
          · simp [Survives]
          · simp [Survives]
        | ok u =>
          rw [hcall, ok_bind] at hbyte
          split at hbyte
          · cases hbyte
          · cases hbyte
            simp [Survives]
      · rw [readByte_of_payload hr.live hpayload.sizeLeft (by omega) hstore] at hbyte
        cases hbyte

lemma not_survives_step (hr : r.Ready) (hfits : ¬ LengthFits r b) :
    ¬ Survives V (readByte V r b) := by
  rw [LengthFits, not_and_or, Classical.not_imp, Classical.not_imp, Classical.not_imp] at hfits
  cases hfits with
  | inl hlong =>
    obtain ⟨hone, hlong⟩ := hlong
    have hlength := hr.inLength (by omega)
    rw [readByte_of_header hr.live hlength.pos, headerByte_of_one hone]
    intro hsurvives
    exact not_sound_headed (mt (sub32_length (length_lt hlength hone)).mpr hlong) hsurvives.1
  | inr hshort =>
    obtain ⟨hsize, hone, hshort⟩ := hshort
    have hpayload := hr.inPayload hsize
    obtain ⟨data, hstore, hlen⟩ := hpayload.store b
    rw [readByte_of_packet hr.live hsize hone hstore,
      packetHandler_short (r := r.called data b) hlen (Nat.lt_of_not_le hshort), error_bind]
    simp [Survives]

end Progress

lemma ready_connectHandler (ctx : σ) : (connectHandler ctx).Ready :=
  ⟨rfl, .inl ⟨by simp [connectHandler], le_rfl, rfl, by simp [connectHandler]⟩⟩

/-- Cutting a stream into reads gives nothing that its prefixes do not give. -/
lemma forall_reads_iff {V : Rtc3dServer σ} {r : Reader σ} {bytes : List UInt8}
    {P : Except Fault (Reader σ) → Prop} :
    (∀ bufs : List (List UInt8), bufs.flatten <+: bytes → P (reads V r bufs)) ↔
      ∀ pre, pre <+: bytes → P (run (readByte V) r pre) := by
  constructor
  · intro h pre hpre
    simpa [reads_eq] using h [pre] (by simpa using hpre)
  · intro h bufs hbufs
    rw [reads_eq]
    exact h _ hbufs

/-- The reader survives a stream, however it is cut, exactly when all the lengths that come in it
fit: at least 5 and at most 259, and at least 7 if the packet is completed. -/
theorem reader_survives_iff (V : Rtc3dServer σ) (ctx : σ) (bytes : List UInt8) :
    (∀ bufs : List (List UInt8), bufs.flatten <+: bytes →
        Survives V (reads V (connectHandler ctx) bufs)) ↔
      Guarded (readByte V) LengthFits (connectHandler ctx) bytes := by
  rw [forall_reads_iff]
  have hready := ready_connectHandler ctx
  refine guarded_iff (I := Reader.Ready) ?_ ?_ ?_ hready hready.survives
  · exact fun r b r' hr hfits => ready_step hr hfits
  · exact fun r b hr hfits => survives_step hr hfits
  · exact fun r b hr hfits => not_survives_step hr hfits

/-- A length of 4 leaves nothing to wait for: all that follows is ignored. -/
theorem reader_ignores_after_length_four :
    ∃ r, reads deafServer (connectHandler ()) [[0, 0, 0, 4]] = .ok r ∧
      (∀ later, run (readByte deafServer) r later = .ok r) ∧
      ¬ Survives deafServer (reads deafServer (connectHandler ()) [[0, 0, 0, 4]]) := by
  have h : ∃ r, reads deafServer (connectHandler ()) [[0, 0, 0, 4]] = .ok r ∧
      (r.live && r.conn.sizeLeft == 0 && r.conn.dataLeft == 0) = true :=
    exists_of_okAnd (by decide +kernel)
  obtain ⟨r, hr, hdone⟩ := h
  simp only [Bool.and_eq_true, beq_iff_eq] at hdone
  obtain ⟨⟨hlive, hsize⟩, hdata⟩ := hdone
  have hignored : ∀ later, run (readByte deafServer) r later = .ok r := by
    intro later
    induction later with
    | nil => rfl
    | cons b later ih =>
      have hbyte : readByte deafServer r b = .ok r := by simp [readByte, hlive, hsize, hdata]
      rw [run_cons, hbyte, ok_bind, ih]
  refine ⟨r, hr, hignored, ?_⟩
  rw [hr]
  rintro ⟨-, later, hlater⟩
  exact hlater (hignored later)

/-! ## Closed connections -/

/-- A server whose command handler does the same, but never ends the connection. -/
def Rtc3dServer.keptOpen (V : Rtc3dServer σ) : Rtc3dServer σ where
  commandHandler text ctx := do
    let (ctx, _) ← V.commandHandler text ctx
    .ok (ctx, false)
  fresh := V.fresh

section Closing

variable {V : Rtc3dServer σ} {r r' : Reader σ} {b : UInt8}

/-- The text that `packet_handler` gives to the command handler, if it comes to that. -/
def Reader.command? (r : Reader σ) : Option (List UInt8) := do
  let type ← r.conn.data.getUint32 0
  if type = PTYPE_COMMAND then
    let data ← r.conn.data.store r.conn.size 0
    data.text 4
  else none

/-- The command that is complete with this byte. -/
def Reader.completes? (r : Reader σ) (b : UInt8) : Option (List UInt8) :=
  if r.conn.sizeLeft = 0 ∧ r.conn.dataLeft = 1 then do
    let data ← r.conn.data.store (sub32 r.conn.size r.conn.dataLeft) b
    (r.called data b).command?
  else none

/-- The reader once the command handler has returned. -/
def Reader.answered (r : Reader σ) (data : Block) (text : List UInt8) (ctx : σ)
    (disconnected : Bool) : Reader σ :=
  { r with
    conn := { r.conn with data := data }
    live := !disconnected
    ctx := ctx
    texts := r.texts ++ [text] }

/-- What `packet_handler` does, by whether it comes to a command. -/
lemma packetHandler_cases (V : Rtc3dServer σ) (r : Reader σ) :
    (r.command? = none ∧
      (packetHandler V r = .ok r ∨ ∃ f, f ≠ .closed ∧ packetHandler V r = .error f)) ∨
    ∃ text data, r.command? = some text ∧
      packetHandler V r = match V.commandHandler text r.ctx with
        | .error h => .error (.process h)
        | .ok (ctx, disconnected) => .ok (r.answered data text ctx disconnected) := by
  unfold packetHandler Reader.command?
  cases htype : r.conn.data.getUint32 0 with
  | none => exact .inl ⟨rfl, .inr ⟨.type, by simp, rfl⟩⟩
  | some type =>
    simp only [inside, ok_bind, Option.bind_eq_bind, Option.bind_some]
    by_cases hcommand : type = PTYPE_COMMAND
    · rw [if_pos hcommand, if_pos hcommand]
      cases hstore : r.conn.data.store r.conn.size 0 with
      | none => exact .inl ⟨rfl, .inr ⟨.terminator, by simp, rfl⟩⟩
      | some data =>
        simp only [ok_bind, Option.bind_some]
        cases htext : data.text 4 with
        | none => exact .inl ⟨rfl, .inr ⟨.text, by simp, rfl⟩⟩
        | some text => exact .inr ⟨text, data, rfl, rfl⟩
    · rw [if_neg hcommand, if_neg hcommand]
      exact .inl ⟨rfl, .inl rfl⟩

/-- Two servers that treat the command in the same way treat the packet in the same way. -/
lemma packetHandler_congr {V' : Rtc3dServer σ}
    (h : ∀ text, r.command? = some text →
      V.commandHandler text r.ctx = V'.commandHandler text r.ctx) :
    packetHandler V r = packetHandler V' r := by
  unfold packetHandler
  unfold Reader.command? at h
  cases htype : r.conn.data.getUint32 0 with
  | none => rfl
  | some type =>
    simp only [inside, ok_bind, htype, Option.bind_eq_bind, Option.bind_some] at h ⊢
    by_cases hcommand : type = PTYPE_COMMAND
    · rw [if_pos hcommand] at h ⊢
      rw [if_pos hcommand]
      cases hstore : r.conn.data.store r.conn.size 0 with
      | none => rfl
      | some data =>
        simp only [ok_bind, hstore, Option.bind_some] at h ⊢
        cases htext : data.text 4 with
        | none => rfl
        | some text =>
          simp only [ok_bind]
          rw [h text htext]
    · rw [if_neg hcommand, if_neg hcommand]

lemma completes?_of_packet {data : Block} (hsize : r.conn.sizeLeft = 0)
    (hdata : r.conn.dataLeft = 1)
    (hstore : r.conn.data.store (sub32 r.conn.size r.conn.dataLeft) b = some data) :
    r.completes? b = (r.called data b).command? := by
  rw [Reader.completes?, if_pos ⟨hsize, hdata⟩, hstore]
  rfl

/-- The command handler ends the connection exactly on the texts in `bye`. -/
structure Rtc3dServer.EndsOn (V : Rtc3dServer σ) (bye : List UInt8 → Bool) : Prop where
  ends : ∀ text ctx, bye text = true → ∃ ctx', V.commandHandler text ctx = .ok (ctx', true)
  stays : ∀ text ctx ctx' disconnected, bye text = false →
    V.commandHandler text ctx = .ok (ctx', disconnected) → disconnected = false

/-- The byte does not complete a command that ends the connection. -/
def NoBye (bye : List UInt8 → Bool) (r : Reader σ) (b : UInt8) : Prop :=
  ∀ text, r.completes? b = some text → bye text = false

/-- The texts up to and including the first one in `bye`. -/
def upToBye (bye : List UInt8 → Bool) : List (List UInt8) → List (List UInt8)
  | [] => []
  | text :: texts => if bye text then [text] else text :: upToBye bye texts

lemma upToBye_of_forall {bye : List UInt8 → Bool} {texts : List (List UInt8)}
    (h : ∀ text ∈ texts, bye text = false) : upToBye bye texts = texts := by
  induction texts with
  | nil => rfl
  | cons text texts ih =>
    rw [upToBye, h text List.mem_cons_self, ih fun t ht => h t (List.mem_cons_of_mem _ ht)]
    rfl

variable {bye : List UInt8 → Bool}

/-- A command that does not end the connection is carried out as if it could not. -/
lemma Rtc3dServer.EndsOn.commandHandler_keptOpen (hV : V.EndsOn bye) {text : List UInt8} {ctx : σ}
    (htext : bye text = false) :
    V.commandHandler text ctx = V.keptOpen.commandHandler text ctx := by
  cases hcall : V.commandHandler text ctx with
  | error h => simp [Rtc3dServer.keptOpen, hcall]
  | ok p =>
    obtain ⟨ctx', disconnected⟩ := p
    obtain rfl := hV.stays text ctx ctx' disconnected htext hcall
    simp [Rtc3dServer.keptOpen, hcall]

lemma readByte_keptOpen (hV : V.EndsOn bye) (hlive : r.live = true) (hno : NoBye bye r b) :
    readByte V r b = readByte V.keptOpen r b := by
  obtain hsize | hsize := Nat.eq_zero_or_pos r.conn.sizeLeft
  · obtain hdata | hdata := Nat.eq_zero_or_pos r.conn.dataLeft
    · rw [readByte_of_ignored hlive hsize hdata, readByte_of_ignored hlive hsize hdata]
    · cases hstore : r.conn.data.store (sub32 r.conn.size r.conn.dataLeft) b with
      | none =>
        rw [readByte_of_store_none hlive hsize hdata hstore,
          readByte_of_store_none hlive hsize hdata hstore]
      | some data =>
        by_cases hone : r.conn.dataLeft = 1
        · rw [readByte_of_packet hlive hsize hone hstore,
            readByte_of_packet hlive hsize hone hstore]
          rw [packetHandler_congr fun text htext => ?_]
          rw [← completes?_of_packet hsize hone hstore] at htext
          exact hV.commandHandler_keptOpen (hno text htext)
        · rw [readByte_of_payload hlive hsize (by omega) hstore,
            readByte_of_payload hlive hsize (by omega) hstore]
  · rw [readByte_of_header hlive hsize, readByte_of_header hlive hsize]
    rfl

/-- A server that keeps its connections open never finds one closed. -/
lemma readByte_keptOpen_ne_closed (hlive : r.live = true) :
    readByte V.keptOpen r b ≠ .error .closed := by
  obtain hsize | hsize := Nat.eq_zero_or_pos r.conn.sizeLeft
  · obtain hdata | hdata := Nat.eq_zero_or_pos r.conn.dataLeft
    · rw [readByte_of_ignored hlive hsize hdata]
      simp
    · cases hstore : r.conn.data.store (sub32 r.conn.size r.conn.dataLeft) b with
      | none =>
        rw [readByte_of_store_none hlive hsize hdata hstore]
        simp
      | some data =>
        by_cases hone : r.conn.dataLeft = 1
        · rw [readByte_of_packet hlive hsize hone hstore]
          obtain ⟨-, hcall⟩ | ⟨text, buf, -, hcall⟩ :=
            packetHandler_cases V.keptOpen (r.called data b)
          · obtain hcall | ⟨f, hf, hcall⟩ := hcall
            · have hcalled : (r.called data b).live = true := hlive
              rw [hcall, ok_bind, if_pos hcalled]
              simp
            · rw [hcall, error_bind]
              simpa using hf
          · rw [hcall]
            cases hctx : V.commandHandler text (r.called data b).ctx with
            | error h => simp [Rtc3dServer.keptOpen, hctx]
            | ok p => simp [Rtc3dServer.keptOpen, hctx, Reader.answered]
        · rw [readByte_of_payload hlive hsize (by omega) hstore]
          simp
  · rw [readByte_of_header hlive hsize]
    simp

/-- A command that ends the connection leaves the reader with a connection that is gone. -/
lemma readByte_of_bye (hV : V.EndsOn bye) (hlive : r.live = true) (hbye : ¬ NoBye bye r b) :
    readByte V r b = .error .closed := by
  simp only [NoBye, not_forall, Bool.not_eq_false] at hbye
  obtain ⟨text, htext, hbye⟩ := hbye
  have hlast : r.conn.sizeLeft = 0 ∧ r.conn.dataLeft = 1 := by
    by_contra hno
    rw [Reader.completes?, if_neg hno] at htext
    cases htext
  obtain ⟨hsize, hone⟩ := hlast
  cases hstore : r.conn.data.store (sub32 r.conn.size r.conn.dataLeft) b with
  | none =>
    rw [Reader.completes?, if_pos ⟨hsize, hone⟩, hstore] at htext
    cases htext
  | some data =>
    rw [completes?_of_packet hsize hone hstore] at htext
    rw [readByte_of_packet hlive hsize hone hstore]
    obtain ⟨hnone, -⟩ | ⟨text', buf, hsome, hcall⟩ := packetHandler_cases V (r.called data b)
    · rw [htext] at hnone
      cases hnone
    · obtain rfl : text = text' := by
        rw [htext] at hsome
        exact Option.some.inj hsome
      obtain ⟨ctx', hctx⟩ := hV.ends text (r.called data b).ctx hbye
      rw [hcall, hctx, ok_bind]
      simp [Reader.answered]

/-- The texts that have been carried out after a byte. -/
lemma readByte_texts (h : readByte V r b = .ok r') :
    r'.texts = r.texts ∨ ∃ text, r.completes? b = some text ∧ r'.texts = r.texts ++ [text] := by
  obtain ⟨-, heffect⟩ := readByte_effect h
  cases heffect with
  | header => exact .inl (headerByte_frame V r b).2
  | payload => exact .inl rfl
  | ignored => exact .inl rfl
  | @packet data u hsize hdata hstore hcall hlive =>
    rw [completes?_of_packet hsize hdata hstore]
    obtain ⟨-, hcase⟩ | ⟨text, buf, hsome, hcase⟩ := packetHandler_cases V (r.called data b)
    · obtain hok | ⟨f, -, herror⟩ := hcase
      · rw [hok] at hcall
        cases hcall
        exact .inl rfl
      · rw [herror] at hcall
        cases hcall
    · rw [hcase] at hcall
      split at hcall
      · cases hcall
      · cases hcall
        exact .inr ⟨text, hsome, rfl⟩

/-- The connection is there, and nothing that ends it has been carried out. -/
structure Reader.Open (bye : List UInt8 → Bool) (r : Reader σ) : Prop where
  live : r.live = true
  texts : ∀ text ∈ r.texts, bye text = false

lemma open_step (hr : r.Open bye) (hno : NoBye bye r b) (h : readByte V r b = .ok r') :
    r'.Open bye := by
  constructor
  · obtain ⟨hlive, heffect⟩ := readByte_effect h
    cases heffect with
    | header => exact (headerByte_frame V r b).1.trans hlive
    | payload => exact hlive
    | packet _ _ _ _ hlive' => exact hlive'
    | ignored => exact hlive
  · intro text htext
    obtain hsame | ⟨new, hnew, happend⟩ := readByte_texts h
    · rw [hsame] at htext
      exact hr.texts text htext
    · rw [happend, List.mem_append, List.mem_singleton] at htext
      obtain htext | rfl := htext
      · exact hr.texts text htext
      · exact hno text hnew

lemma open_connectHandler (ctx : σ) : (connectHandler ctx).Open bye :=
  ⟨rfl, by simp [connectHandler]⟩

/-- A freed connection is left alone, and what is carried out are the commands of the stream up to
the one that ends the connection. -/
def LeftAlone (V : Rtc3dServer σ) (bye : List UInt8 → Bool) (ctx : σ)
    (bufs : List (List UInt8)) : Prop :=
  reads V (connectHandler ctx) bufs ≠ .error .closed ∧
    ∀ r, reads V.keptOpen (connectHandler ctx) bufs = .ok r →
      ∃ r', reads V (connectHandler ctx) bufs = .ok r' ∧ r'.texts = upToBye bye r.texts

lemma leftAlone_iff (hV : V.EndsOn bye) (ctx : σ) (bytes : List UInt8) :
    (∀ bufs : List (List UInt8), bufs.flatten <+: bytes → LeftAlone V bye ctx bufs) ↔
      Guarded (readByte V) (NoBye bye) (connectHandler ctx) bytes := by
  have hstep : ∀ (r : Reader σ) b r', r.Open bye → NoBye bye r b → readByte V r b = .ok r' →
      r'.Open bye := fun r b r' => open_step
  have hsame : ∀ (r : Reader σ) b, r.Open bye → NoBye bye r b →
      readByte V r b = readByte V.keptOpen r b := fun r b hr => readByte_keptOpen hV hr.live
  have hclosed : (∀ pre, pre <+: bytes →
      run (readByte V) (connectHandler ctx) pre ≠ .error .closed) ↔
        Guarded (readByte V) (NoBye bye) (connectHandler ctx) bytes := by
    refine guarded_iff (P := fun x => x ≠ .error .closed) hstep ?_ ?_ (open_connectHandler ctx)
      (by simp)
    · intro r b hr hno
      rw [hsame r b hr hno]
      exact readByte_keptOpen_ne_closed hr.live
    · intro r b hr hbye hne
      exact hne (readByte_of_bye hV hr.live hbye)
  constructor
  · intro hall
    refine hclosed.mp fun pre hpre => ?_
    have h := (hall [pre] (by simpa using hpre)).1
    simpa [reads_eq] using h
  · intro hg bufs hbufs
    have hgpre := hg.of_isPrefix hbufs
    simp only [LeftAlone, reads_eq]
    refine ⟨hclosed.mpr hg _ hbufs, fun r hr => ?_⟩
    rw [← Guarded.run_congr hstep hsame (open_connectHandler ctx) hgpre] at hr
    have hopen : r.Open bye := hgpre.invariant hstep (open_connectHandler ctx) hr
    exact ⟨r, hr, (upToBye_of_forall hopen.texts).symm⟩

end Closing

/-! ## The server -/

section Server

variable (parserParseString : List UInt8 → Option Command) (conn : Conn) (fresh : ℕ → ℕ → UInt8)

/-- The server of `server.cc`, for one of its connections.  The parser is a parameter. -/
def rtc3dServer : Rtc3dServer ServerCtx where
  commandHandler text ctx := do
    let (ctx, replies) ← rtc3dCommandHandler conn (parserParseString text) ctx
    .ok (ctx, decide (.disconnect ∈ replies))
  fresh := fresh

/-- The parser accepts the text, as a `Bye`. -/
def acceptsBye (text : List UInt8) : Bool :=
  match parserParseString text with
  | some command => decide (command.type = .bye)
  | none => false

end Server

/-- Of all commands, only `Bye` ends the connection. -/
lemma disconnect_mem_handleCommand {conn : Conn} {command : Command} {ctx ctx' : ServerCtx}
    {replies : List Reply} (h : handleCommand conn command ctx = .ok (ctx', replies)) :
    Reply.disconnect ∈ replies ↔ command.type = .bye := by
  constructor
  · intro hmem
    rcases mem_answers h hmem with hanswer | ⟨-, hreply⟩ | ⟨-, -, hreply⟩
    · cases htype : command.type <;> simp_all [CommandType.answers]
    · cases hreply
    · cases hreply
  · intro htype
    unfold handleCommand at h
    rw [htype] at h
    cases h
    simp

lemma rtc3dServer_endsOn (parserParseString : List UInt8 → Option Command) (conn : Conn)
    (fresh : ℕ → ℕ → UInt8) :
    (rtc3dServer parserParseString conn fresh).EndsOn (acceptsBye parserParseString) := by
  constructor
  · intro text ctx hbye
    unfold acceptsBye at hbye
    split at hbye
    next command hcommand =>
      have htype : command.type = .bye := of_decide_eq_true hbye
      refine ⟨rtc3dDisconnectHandler conn ctx, ?_⟩
      simp [rtc3dServer, hcommand, rtc3dCommandHandler, handleCommand, htype]
    next => cases hbye
  · intro text ctx ctx' disconnected hno h
    obtain ⟨⟨ctx₁, replies⟩, hcall, hres⟩ := bind_eq_ok.mp h
    cases hres
    unfold acceptsBye at hno
    cases hparse : parserParseString text with
    | none =>
      rw [hparse] at hcall
      cases hcall
      rfl
    | some command =>
      rw [hparse] at hcall hno
      have htype : command.type ≠ .bye := of_decide_eq_false hno
      exact decide_eq_false (mt (disconnect_mem_handleCommand hcall).mp htype)

/-- A stream leaves freed connections alone, however it is cut, exactly when no command that
becomes complete in it is an accepted `Bye`: the reader always goes on to free the data buffer of
the connection that it has just closed. -/
theorem closed_untouched_iff (parserParseString : List UInt8 → Option Command) (conn : Conn)
    (fresh : ℕ → ℕ → UInt8) (ctx : ServerCtx) (bytes : List UInt8) :
    (∀ bufs : List (List UInt8), bufs.flatten <+: bytes →
        LeftAlone (rtc3dServer parserParseString conn fresh) (acceptsBye parserParseString) ctx
          bufs) ↔
      Guarded (readByte (rtc3dServer parserParseString conn fresh))
        (NoBye (acceptsBye parserParseString)) (connectHandler ctx) bytes :=
  leftAlone_iff (rtc3dServer_endsOn parserParseString conn fresh) ctx bytes

/-- The parser, as far as the text `Bye` is concerned. -/
def parseBye (text : List UInt8) : Option Command :=
  if text = [0x42, 0x79, 0x65] then some { someProfileSet 0 with type := .bye } else none

/-- A `Bye`, and nothing after it. -/
theorem closed_touched_after_bye :
    ¬ LeftAlone (rtc3dServer parseBye 0 fun _ _ => 0) (acceptsBye parseBye) someServer
      [[0, 0, 0, 11, 0, 0, 0, 1, 0x42, 0x79, 0x65]] := by
  have hclosed : reads (rtc3dServer parseBye 0 fun _ _ => 0) (connectHandler someServer)
      [[0, 0, 0, 11, 0, 0, 0, 1, 0x42, 0x79, 0x65]] = .error .closed :=
    eq_error_of_haltsWith (by decide +kernel)
  exact fun h => h.1 hclosed

end SledServer
