import SledServer.Server.Replies
import SledServer.Server.Sending

/-!
# The byte order that a client asks for

`SetByteOrder` stores a byte order in the connection and is answered with `ok-setbyteorder`.  The
functions that put packets together write every integer with `htonl` and never look at it, so a
packet has the byte order of its connection exactly when this is big-endian.

`Endpoints` is the server together with the byte orders of its connections, and `outgoing` are the
packets of a step, each with the byte order that its connection has by then.
-/

namespace SledServer

open SledServer.Core Flex

/-! ## Integers in either order -/

namespace ByteOrder

/-- The bytes of an integer. -/
def bytes : ByteOrder → ℕ → ℕ → List UInt8
  | bigEndian => big
  | littleEndian => little

/-- The integer with these bytes. -/
def value : ByteOrder → List UInt8 → ℕ
  | bigEndian => ofBig
  | littleEndian => ofLittle

/-- `struct.unpack` in this order: integers of these widths, and what follows them. -/
def unpackAll (o : ByteOrder) : List ℕ → List UInt8 → Option (List ℕ × List UInt8)
  | [], bs => some ([], bs)
  | k :: ks, bs =>
    if k ≤ bs.length then
      (o.unpackAll ks (bs.drop k)).map fun r => (o.value (bs.take k) :: r.1, r.2)
    else none

/-- Integers one after the other, each with its width. -/
def pack (o : ByteOrder) (fields : List (ℕ × ℕ)) : List UInt8 :=
  fields.flatMap fun f => o.bytes f.1 f.2

@[simp] lemma length_bytes (o : ByteOrder) (k n : ℕ) : (o.bytes k n).length = k := by
  cases o
  · exact length_big k n
  · exact length_little k n

lemma value_bytes (o : ByteOrder) {k n : ℕ} (h : n < 256 ^ k) : o.value (o.bytes k n) = n := by
  cases o with
  | bigEndian => exact ofBig_big h
  | littleEndian => exact (ofLittle_little k n).trans (Nat.mod_eq_of_lt h)

/-- What has been packed in an order is unpacked in this order. -/
lemma unpackAll_pack (o : ByteOrder) {fields : List (ℕ × ℕ)} (h : ∀ f ∈ fields, f.2 < 256 ^ f.1)
    (rest : List UInt8) : o.unpackAll (fields.map Prod.fst) (o.pack fields ++ rest) =
      some (fields.map Prod.snd, rest) := by
  induction fields with
  | nil => rfl
  | cons f fields ih =>
    have hvalue := o.value_bytes (h f List.mem_cons_self)
    have hlength := o.length_bytes f.1 f.2
    have hrest := ih fun g hg => h g (List.mem_cons_of_mem f hg)
    have hpack : o.pack (f :: fields) ++ rest = o.bytes f.1 f.2 ++ (o.pack fields ++ rest) := by
      simp [pack]
    rw [hpack, List.map_cons, List.map_cons, unpackAll,
      if_pos (by rw [List.length_append, hlength]; omega), List.take_left' hlength,
      List.drop_left' hlength, hrest, hvalue]
    rfl

end ByteOrder

/-! ## Packets in either order -/

namespace Message

/-- The integers in the packet of a message, each with its width: the header, and, for a frame, the
component count, the component header with frame and time, the marker count and the marker. -/
def fields : Message → List (ℕ × ℕ)
  | .command text => [(4, 8 + text.length), (4, PTYPE_COMMAND)]
  | .error text => [(4, 8 + text.length), (4, PTYPE_ERROR.toNat)]
  | .data frame time point =>
    [(4, 52), (4, PTYPE_DATAFRAME.toNat), (4, 1), (4, 40), (4, CTYPE_3D.toNat), (4, frame.toNat),
      (8, time.toNat), (4, 1), (4, point.toNat), (4, 0), (4, 0), (4, 0)]

/-- What follows the integers. -/
def text : Message → List UInt8
  | .command text | .error text => text
  | .data _ _ _ => []

/-- The packet of the message in a byte order. -/
def encodeIn (o : ByteOrder) (m : Message) : List UInt8 := o.pack m.fields ++ m.text

/-- Every call that sends the message gives its packet in this byte order to `net_send`, and a
client that reads it in this order gets the integers and the text of the message. -/
def SentIn (o : ByteOrder) (m : Message) : Prop :=
  ∀ call : SendCall, call.message = m → call.sends = true →
    ∃ bs, call.bytes = some bs ∧ bs = m.encodeIn o ∧
      o.unpackAll (m.fields.map Prod.fst) bs = some (m.fields.map Prod.snd, m.text)

section

variable {m : Message}

lemma encodeIn_bigEndian (h : m.Valid) : m.encodeIn .bigEndian = m.packet.encode := by
  cases m with
  | command text | error text =>
    have hlength := h.2
    simp [encodeIn, ByteOrder.pack, fields, Message.text, ByteOrder.bytes, packet, Packet.encode,
      Packet.payload, be32_eq, PTYPE_COMMAND]
  | data frame time point =>
    simp [encodeIn, ByteOrder.pack, fields, Message.text, ByteOrder.bytes, packet, Packet.encode,
      Packet.payload, be32_eq, dataBody, componentBytes, markerBytes]

lemma fields_fit (h : m.Valid) : ∀ f ∈ m.fields, f.2 < 256 ^ f.1 := by
  cases m with
  | command text | error text =>
    have hlength := h.2
    simp [fields, PTYPE_COMMAND, PTYPE_ERROR]
    omega
  | data frame time point =>
    have hframe := frame.toNat_lt
    have htime := time.toNat_lt
    have hpoint := point.toNat_lt
    simp [fields, PTYPE_DATAFRAME, CTYPE_3D]
    omega

/-- The text has no zero byte, and the size of its packet fits in one byte. -/
def Short : Message → Prop
  | .command text | .error text => 0 ∉ text ∧ text.length < 248
  | .data _ _ _ => True

lemma Short.valid (h : m.Short) : m.Valid := by
  cases m with
  | command text | error text => exact ⟨h.1, by have := h.2; omega⟩
  | data frame time point => trivial

/-- The two orders differ in the first byte of the size already. -/
lemma encodeIn_littleEndian_ne (h : m.Short) :
    m.encodeIn .littleEndian ≠ m.encodeIn .bigEndian := by
  have hsize : ∃ n fs, m.fields = (4, n) :: fs ∧ 0 < n ∧ n < 256 := by
    cases m with
    | command text | error text =>
      have hlength := h.2
      exact ⟨8 + text.length, _, rfl, by omega, by omega⟩
    | data frame time point => exact ⟨52, _, rfl, by decide, by decide⟩
  obtain ⟨n, fs, hfields, hpos, hlt⟩ := hsize
  intro heq
  have hhead := congrArg List.head? heq
  simp only [encodeIn, ByteOrder.pack, hfields, List.flatMap_cons, ByteOrder.bytes, big, little,
    List.reverse_cons, List.reverse_nil, List.nil_append, List.cons_append, List.head?_cons,
    Option.some.injEq] at hhead
  have hbyte := congrArg UInt8.toNat hhead
  have hhigh : n / 256 = 0 := Nat.div_eq_of_lt hlt
  rw [UInt8.toNat_ofNat', UInt8.toNat_ofNat', hhigh] at hbyte
  omega

/-- Only big-endian packets are sent. -/
lemma sentIn_iff (h : m.Short) (o : ByteOrder) : m.SentIn o ↔ o = .bigEndian := by
  have hbytes : ∀ call : SendCall, call.message = m → call.sends = true →
      call.bytes = some (m.encodeIn .bigEndian) := by
    rintro call rfl hsends
    rw [SendCall.bytes_eq h.valid, if_pos hsends, encodeIn_bigEndian h.valid]
  constructor
  · intro hsent
    cases o with
    | bigEndian => rfl
    | littleEndian =>
      have hsends : (⟨m, some fun _ => 0, fun _ => 0⟩ : SendCall).sends = true := by cases m <;> rfl
      obtain ⟨bs, hbs, henc, -⟩ := hsent ⟨m, some fun _ => 0, fun _ => 0⟩ rfl hsends
      rw [hbytes _ rfl hsends, henc] at hbs
      exact absurd (Option.some.inj hbs).symm (encodeIn_littleEndian_ne h)
  · rintro rfl call hcall hsends
    exact ⟨_, hbytes call hcall hsends, rfl,
      ByteOrder.unpackAll_pack .bigEndian (fields_fit h.valid) m.text⟩

end

end Message

/-! ## Connections and their byte orders -/

/-- The message that a reply sends.  `float` is the conversion of a position, or of `NAN`, to the
bits of a `float`. -/
def Reply.message? (float : Option ℚ → UInt32) : Reply → Option Message
  | .error text => some (.error (bytes text))
  | .command text => some (.command (bytes text))
  | .data frame time position => some (.data frame time (float position))
  | .setByteOrder _ | .disconnect => none

/-- The server, and the field `byte_order` of each connection. -/
structure Endpoints where
  server : Server
  byteOrder : Conn → ByteOrder

/-- `rtc3d_set_byte_order`, as far as it is called among these replies. -/
def setByteOrders : (Conn → ByteOrder) → List (Conn × Reply) → Conn → ByteOrder
  | o, [] => o
  | o, (conn, .setByteOrder order) :: rs => setByteOrders (Function.update o conn order) rs
  | o, _ :: rs => setByteOrders o rs

/-- A reply, and the byte order of its connection when it is sent. -/
structure Outgoing where
  conn : Conn
  order : ByteOrder
  reply : Reply

/-- The replies, each with the byte order that its connection has by then. -/
def outgoing : (Conn → ByteOrder) → List (Conn × Reply) → List Outgoing
  | _, [] => []
  | o, (conn, .setByteOrder order) :: rs => outgoing (Function.update o conn order) rs
  | o, (conn, reply) :: rs => ⟨conn, o conn, reply⟩ :: outgoing o rs

/-- What the server has sent on its way from `v` to `v'`. -/
def Server.news (v v' : Server) : List (Conn × Reply) := v'.sent.drop v.sent.length

/-- The byte orders after a connection has come, if this is what happens. -/
def Endpoints.connectHandler (s : Endpoints) : ServerEvent → Conn → ByteOrder
  | .connect conn =>
    if conn ∈ s.server.connected then s.byteOrder
    else Function.update s.byteOrder conn .bigEndian
  | _ => s.byteOrder

/-- One step of the server with its connections. -/
def endpointsStep (F : Numerals) (s : Endpoints) (e : ServerEvent) : Except Halt Endpoints := do
  let v ← serverStep F s.server e
  .ok ⟨v, setByteOrders (s.connectHandler e) (s.server.news v)⟩

/-- The server before there are any connections. -/
def Endpoints.start (v : Server) : Endpoints := ⟨v, fun _ => .bigEndian⟩

/-- Keeping track of the orders changes nothing. -/
lemma run_endpointsStep (F : Numerals) (s : Endpoints) (es : List ServerEvent) :
    (run (endpointsStep F) s es).map Endpoints.server = run (serverStep F) s.server es := by
  refine run_map (fun s e => ?_) s es
  unfold endpointsStep
  cases serverStep F s.server e <;> rfl

/-- All packets of a step are in the byte order of their connection, the answer to `SetByteOrder`
apart. -/
def HonoursOrder (float : Option ℚ → UInt32) (s s' : Endpoints) : Prop :=
  ∀ p ∈ outgoing s.byteOrder (s.server.news s'.server), p.reply ≠ .command "ok-setbyteorder" →
    ∀ m, p.reply.message? float = some m → m.SentIn p.order

/-- The event does not make the server send a packet, other than the answer to `SetByteOrder`, on a
connection that has asked for little-endian packets. -/
def BigEndianOnly (F : Numerals) (s : Endpoints) : ServerEvent → Prop
  | .command conn text memory =>
    conn ∈ s.server.connected → s.byteOrder conn = .littleEndian →
      ∃ c, parsed? F text memory = some c ∧ (c.type = .setbyteorder ∨ c.type.Silent)
  | .timeout _ _ => ∀ conn ∈ s.server.ctx.streamClients, s.byteOrder conn = .bigEndian
  | _ => True

section Answers

variable {conn : Conn} {command : Command} {ctx : ServerCtx} {r : ServerCtx × List Reply}
  {float : Option ℚ → UInt32} {reply : Reply} {m : Message}

/-- The texts that are sent are short. -/
lemma short_answers (type : CommandType) (hreply : reply ∈ type.answers)
    (hm : reply.message? float = some m) : m.Short := by
  have hall : type.answers.all fun reply =>
      match reply with
      | .command text | .error text =>
        decide (0 ∉ bytes text) && decide ((bytes text).length < 248)
      | _ => true := by
    cases type <;> decide +kernel
  have hshort := List.all_eq_true.mp hall reply hreply
  cases reply with
  | command text | error text =>
    cases hm
    simpa [Message.Short] using hshort
  | data | setByteOrder | disconnect => cases hm <;> trivial

lemma short_of_handler {command : Option Command}
    (h : rtc3dCommandHandler conn command ctx = .ok r) (hreply : reply ∈ r.2)
    (hm : reply.message? float = some m) : m.Short := by
  cases command with
  | none =>
    cases h
    rw [List.mem_singleton] at hreply
    cases hreply
    cases hm
    exact ⟨by decide +kernel, by decide +kernel⟩
  | some command =>
    rcases mem_answers h hreply with hanswer | ⟨-, rfl⟩ | ⟨-, -, rfl⟩
    · exact short_answers command.type hanswer hm
    · cases hm
    · cases hm
      trivial

lemma packets_pos (h : handleCommand conn command ctx = .ok r) (hsilent : ¬ command.type.Silent) :
    0 < packets r.2 := by
  by_cases htype : command.type = .profileSet
  · have hset : r = cmdProfileSet command ctx := by
      rw [handleCommand, htype] at h
      exact (Except.ok.inj h).symm
    rw [hset]
    simp only [cmdProfileSet]
    split
    · exact Nat.one_pos
    · rw [packets_append, packets_profileSetTarget]
      omega
  · have hone := (packets_handleCommand h).mpr ⟨hsilent, fun h' => absurd h' htype⟩
    omega

lemma ok_setbyteorder_answers {type : CommandType}
    (h : .command "ok-setbyteorder" ∈ type.answers) : type = .setbyteorder := by
  cases type <;> simp_all [CommandType.answers]

/-- A text that is answered, and not by `ok-setbyteorder`, is answered by another packet, and does
not change the byte order. -/
lemma exists_packet_of_handler {command : Option Command}
    (h : rtc3dCommandHandler conn command ctx = .ok r)
    (hanswered : ∀ c, command = some c → ¬ c.type.Silent ∧ c.type ≠ .setbyteorder)
    (float : Option ℚ → UInt32) : (∀ order, .setByteOrder order ∉ r.2) ∧
      ∃ reply ∈ r.2, reply ≠ .command "ok-setbyteorder" ∧
        ∃ m, reply.message? float = some m := by
  cases command with
  | none =>
    cases h
    exact ⟨by simp, _, List.mem_singleton_self _, by simp, _, rfl⟩
  | some command =>
    obtain ⟨hsilent, htype⟩ := hanswered command rfl
    constructor
    · intro order hmem
      rcases mem_answers h hmem with hanswer | ⟨hset, -⟩ | ⟨-, -, hreply⟩
      · cases htype : command.type <;> simp_all [CommandType.answers]
      · exact htype hset
      · cases hreply
    · obtain ⟨reply, hmem, hpacket⟩ := List.countP_pos_iff.mp (packets_pos h hsilent)
      refine ⟨reply, hmem, ?_, ?_⟩
      · rintro rfl
        rcases mem_answers h hmem with hanswer | ⟨-, hreply⟩ | ⟨-, -, hreply⟩
        · exact htype (ok_setbyteorder_answers hanswer)
        · cases hreply
        · cases hreply
      · cases reply <;> simp_all [Reply.isPacket, Reply.message?]

/-- A command that is not answered, or by `ok-setbyteorder`, is answered by no other packet. -/
lemma no_packet_of_handler (h : handleCommand conn command ctx = .ok r)
    (htype : command.type = .setbyteorder ∨ command.type.Silent) (hreply : reply ∈ r.2)
    (hm : reply.message? float = some m) : reply = .command "ok-setbyteorder" := by
  have hanswers : ∀ type : CommandType, type = .setbyteorder ∨ type.Silent →
      reply ∈ type.answers → reply = .command "ok-setbyteorder" := by
    rintro type (rfl | rfl | rfl | rfl) hanswer <;> simp_all [CommandType.answers]
  rcases mem_answers h hreply with hanswer | ⟨-, rfl⟩ | ⟨hframe, -⟩
  · exact hanswers command.type htype hanswer
  · cases hm
  · rw [hframe] at htype
    simp [CommandType.Silent] at htype

end Answers

/-! ## One step -/

section Outgoing

variable {o : Conn → ByteOrder} {rs : List (Conn × Reply)}

lemma mem_of_mem_outgoing {p : Outgoing} (h : p ∈ outgoing o rs) : (p.conn, p.reply) ∈ rs := by
  induction rs generalizing o with
  | nil => cases h
  | cons r rs ih =>
    obtain ⟨conn, reply⟩ := r
    cases reply with
    | setByteOrder order => exact List.mem_cons_of_mem _ (ih h)
    | error | command | data | disconnect =>
      rcases List.mem_cons.mp h with rfl | h
      · exact List.mem_cons_self
      · exact List.mem_cons_of_mem _ (ih h)

/-- As long as no byte order is changed, all packets of a connection have the same. -/
lemma outgoing_eq (h : ∀ conn order, (conn, .setByteOrder order) ∉ rs) :
    outgoing o rs = rs.map fun r => ⟨r.1, o r.1, r.2⟩ := by
  induction rs with
  | nil => rfl
  | cons r rs ih =>
    obtain ⟨conn, reply⟩ := r
    have hrest := ih fun conn order hmem => h conn order (List.mem_cons_of_mem _ hmem)
    cases reply with
    | setByteOrder order => exact absurd List.mem_cons_self (h conn order)
    | error | command | data | disconnect => exact congrArg _ hrest

end Outgoing

section Steps

variable {F : Numerals} {float : Option ℚ → UInt32} {s s' : Endpoints} {e : ServerEvent}

lemma endpointsStep_ok (h : endpointsStep F s e = .ok s') :
    serverStep F s.server e = .ok s'.server := by
  obtain ⟨v, hv, h⟩ := bind_eq_ok.mp h
  cases h
  exact hv

lemma endpointsStep_of_serverStep {v : Server} (h : serverStep F s.server e = .ok v) :
    ∃ s', endpointsStep F s e = .ok s' ∧ s'.server = v :=
  ⟨_, bind_eq_ok.mpr ⟨v, h, rfl⟩, rfl⟩

lemma honoursOrder_of_quiet (h : s.server.news s'.server = []) : HonoursOrder float s s' := by
  intro p hp
  rw [h] at hp
  cases hp

lemma honoursOrder_timeout {tcurrent now : ℚ}
    (h : endpointsStep F s (.timeout tcurrent now) = .ok s') :
    HonoursOrder float s s' ↔ BigEndianOnly F s (.timeout tcurrent now) := by
  have hnews : s.server.news s'.server = s.server.ctx.streamClients.map fun conn =>
      (conn, streamedFrame tcurrent now s.server) := sent_of_step (endpointsStep_ok h)
  have hnone : ∀ conn order, (conn, .setByteOrder order) ∉ s.server.news s'.server := by
    simp [hnews, streamedFrame]
  unfold HonoursOrder BigEndianOnly
  rw [outgoing_eq hnone, hnews]
  constructor
  · intro hall conn hconn
    have hsent := hall ⟨conn, s.byteOrder conn, streamedFrame tcurrent now s.server⟩
      (by simpa using hconn) (by simp [streamedFrame]) _ rfl
    exact (Message.sentIn_iff (by trivial) _).mp hsent
  · intro hbig p hp _ m hm
    simp only [List.map_map, List.mem_map, Function.comp_apply] at hp
    obtain ⟨conn, hconn, rfl⟩ := hp
    cases hm
    exact (Message.sentIn_iff (by trivial) _).mpr (hbig conn hconn)

lemma honoursOrder_command {conn : Conn} {text : List UInt8} {memory : CommandT}
    (h : endpointsStep F s (.command conn text memory) = .ok s') :
    HonoursOrder float s s' ↔ BigEndianOnly F s (.command conn text memory) := by
  have hstep := endpointsStep_ok h
  by_cases hconn : conn ∈ s.server.connected
  swap
  · refine iff_of_true (honoursOrder_of_quiet ?_) fun h' => absurd h' hconn
    exact (sent_of_step hstep).trans (if_neg hconn)
  obtain ⟨r, hr, -⟩ : ∃ r, commandHandler F conn text memory s.server.ctx = .ok r ∧ True := by
    simp only [serverStep, if_pos hconn] at hstep
    obtain ⟨r, hr, -⟩ := bind_eq_ok.mp hstep
    exact ⟨r, hr, trivial⟩
  have hnews : s.server.news s'.server = r.2.map fun reply => (conn, reply) :=
    (sent_of_step hstep).trans (by simp only [if_pos hconn, hr])
  rw [commandHandler_eq] at hr
  by_cases hquiet : ∃ c, parsed? F text memory = some c ∧ (c.type = .setbyteorder ∨ c.type.Silent)
  · refine iff_of_true ?_ fun _ _ => hquiet
    obtain ⟨c, hparsed, htype⟩ := hquiet
    intro p hp hne m hm
    have hmem := mem_of_mem_outgoing hp
    rw [hnews, List.mem_map] at hmem
    obtain ⟨reply, hreply, heq⟩ := hmem
    cases heq
    rw [hparsed] at hr
    exact absurd (no_packet_of_handler hr htype hreply hm) hne
  · have hanswered : ∀ c, parsed? F text memory = some c →
        ¬ c.type.Silent ∧ c.type ≠ .setbyteorder := fun c hc =>
      ⟨fun hsilent => hquiet ⟨c, hc, .inr hsilent⟩, fun hset => hquiet ⟨c, hc, .inl hset⟩⟩
    obtain ⟨hnone, reply, hreply, hne, m, hm⟩ := exists_packet_of_handler hr hanswered float
    have hout : outgoing s.byteOrder (s.server.news s'.server) =
        r.2.map fun reply => ⟨conn, s.byteOrder conn, reply⟩ := by
      rw [outgoing_eq (by simpa [hnews] using fun order h' => hnone order h'), hnews, List.map_map]
      rfl
    unfold HonoursOrder
    rw [hout]
    constructor
    · intro hall _ hlittle
      have hsent := hall _ (List.mem_map_of_mem hreply) hne m hm
      have hbig := (Message.sentIn_iff (short_of_handler hr hreply hm) _).mp hsent
      rw [hlittle] at hbig
      cases hbig
    · intro hguard p hp _ m hm
      obtain ⟨reply, hreply, rfl⟩ := List.mem_map.mp hp
      have hbig : s.byteOrder conn = .bigEndian := by
        cases horder : s.byteOrder conn with
        | bigEndian => rfl
        | littleEndian => exact absurd (hguard hconn horder) hquiet
      exact (Message.sentIn_iff (short_of_handler hr hreply hm) _).mpr hbig

/-- The packets of a step are in the byte orders of their connections exactly when the step sends
none on a connection that has asked for little-endian packets. -/
lemma honoursOrder_iff (hs : s.server.ctx.Mapped) :
    (∀ s', endpointsStep F s e = .ok s' → HonoursOrder float s s') ↔ BigEndianOnly F s e := by
  cases e with
  | connect | disconnect | read | watchdog =>
    refine iff_of_true (fun s' h => honoursOrder_of_quiet ?_) trivial
    exact sent_of_step (endpointsStep_ok h)
  | timeout tcurrent now =>
    obtain ⟨s', h, -⟩ :=
      endpointsStep_of_serverStep (F := F) (s := s) (e := .timeout tcurrent now) rfl
    exact ⟨fun hall => (honoursOrder_timeout h).mp (hall s' h),
      fun hguard s' h => (honoursOrder_timeout h).mpr hguard⟩
  | command conn text memory =>
    have hreturns : ∃ v, serverStep F s.server (.command conn text memory) = .ok v := by
      simp only [serverStep]
      split
      · obtain ⟨r, hr, -⟩ := commandHandler_mapped hs F conn text memory
        exact ⟨_, bind_eq_ok.mpr ⟨r, hr, rfl⟩⟩
      · exact ⟨_, rfl⟩
    obtain ⟨v, hv⟩ := hreturns
    obtain ⟨s', h, -⟩ := endpointsStep_of_serverStep hv
    exact ⟨fun hall => (honoursOrder_command h).mp (hall s' h),
      fun hguard s' h => (honoursOrder_command h).mpr hguard⟩

end Steps

/-! ## Runs -/

/-- In a run, every packet but the answer to `SetByteOrder` is in the byte order last set on its
connection exactly when no such packet is sent on a connection whose last accepted `SetByteOrder`
was for little-endian. -/
theorem byteOrder_honoured_iff (F : Numerals) (float : Option ℚ → UInt32) {mem : SledEnv} {now : ℚ}
    {o : CanOutcome} {v₀ : Server} (h : serverStart mem now o = .ok v₀) (es : List ServerEvent) :
    (∀ pre e, pre ++ [e] <+: es → ∀ s, run (endpointsStep F) (.start v₀) pre = .ok s →
      ∀ s', endpointsStep F s e = .ok s' → HonoursOrder float s s') ↔
        Guarded (endpointsStep F) (BigEndianOnly F) (.start v₀) es := by
  rw [guarded_iff_forall]
  have hmapped : ∀ pre s, run (endpointsStep F) (.start v₀) pre = .ok s → s.server.ctx.Mapped := by
    intro pre s hrun
    exact run_invariant (I := fun s : Endpoints => s.server.ctx.Mapped)
      (fun _ _ _ hs hstep => (mapped_step hs (endpointsStep_ok hstep)).1)
      (mapped_serverStart h) hrun
  constructor
  · intro hall pre e hpre s hrun
    exact (honoursOrder_iff (hmapped pre s hrun)).mp (hall pre e hpre s hrun)
  · intro hall pre e hpre s hrun
    exact (honoursOrder_iff (hmapped pre s hrun)).mpr (hall pre e hpre s hrun)

/-- A client asks for little-endian packets while it gets the stream. -/
theorem byteOrder_honoured_iff_session : ∃ v s, serverStart someMemory 0 ⟨.success, true⟩ = .ok v ∧
    run (endpointsStep .decimal) (.start v) someSession = .ok s ∧
    s.server.ctx.streamClients = [0] ∧ (0, .command "ok-setbyteorder") ∈ s.server.sent ∧
    ((∀ pre e, pre ++ [e] <+: someSession → ∀ s,
      run (endpointsStep .decimal) (.start v) pre = .ok s →
        ∀ s', endpointsStep .decimal s e = .ok s' → HonoursOrder (fun _ => 0) s s') ↔
      Guarded (endpointsStep .decimal) (BigEndianOnly .decimal) (.start v) someSession) := by
  obtain ⟨v, hv⟩ := exists_serverStart
  obtain ⟨u, hu, hclients, -, -, -, horder⟩ := someSession_run hv
  obtain ⟨s, hs, rfl⟩ := map_eq_ok.mp ((run_endpointsStep .decimal (.start v) someSession).trans hu)
  exact ⟨v, s, hv, hs, hclients, horder, byteOrder_honoured_iff .decimal _ hv someSession⟩

/-- A client asks for little-endian packets and then for the stream.  The answer to that is
big-endian. -/
theorem littleEndian_ignored : ∃ v, serverStart someMemory 0 ⟨.success, true⟩ = .ok v ∧
    ¬ ∀ pre e, pre ++ [e] <+: [.connect 0,
        .command 0 (bytes "SetByteOrder LittleEndian") .zero,
        .command 0 (bytes "StreamFrames") .zero] → ∀ s,
      run (endpointsStep .decimal) (.start v) pre = .ok s →
        ∀ s', endpointsStep .decimal s e = .ok s' → HonoursOrder (fun _ => 0) s s' := by
  obtain ⟨v, hv⟩ := exists_serverStart
  refine ⟨v, hv, fun hall => ?_⟩
  obtain ⟨s, -, rfl⟩ := serverStart_ok hv
  have hconn : 0 ∈ (⟨⟨s, [], fun _ => none⟩, [0], 0, [], none⟩ : Server).connected := by simp
  have hrun : ∃ t, run (endpointsStep .decimal) (.start ⟨⟨s, [], fun _ => none⟩, [], 0, [], none⟩)
      [.connect 0, .command 0 (bytes "SetByteOrder LittleEndian") .zero] = .ok t ∧
      0 ∈ t.server.connected ∧ t.byteOrder 0 = .littleEndian :=
    ⟨_, run_cons_ok.mpr ⟨_, rfl, run_cons_ok.mpr ⟨_, bind_eq_ok.mpr
      ⟨_, serverStep_command hconn parsed?_littleEndian rfl, rfl⟩, rfl⟩⟩, by simp [Server.replied],
      rfl⟩
  obtain ⟨t, hrun, hconn, horder⟩ := hrun
  obtain ⟨u, hu, -⟩ := endpointsStep_of_serverStep (serverStep_streamFrames hconn)
  have hhonoured := hall _ _ (List.prefix_refl _) t hrun u hu
  obtain ⟨c, hc, htype⟩ := (honoursOrder_command hu).mp hhonoured hconn horder
  rw [parsed?_streamFrames] at hc
  cases hc
  simp [CommandType.Silent, Sentence.assign] at htype

end SledServer
