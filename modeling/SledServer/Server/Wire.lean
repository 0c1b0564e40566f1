import SledServer.Core.Transducer
import SledServer.Server.Sending
import SledServer.Server.Subscriptions

/-!
# The server, byte by byte

All of the server, from the bytes that the sockets hold to what is done about them: every connection
has a reader of its own (`read_handler`), and the readers call one command handler, which works on
the one state of the server.

What the clients mean is simpler.  For each connection `Lines` keeps the bytes of the packet that is
not complete yet, and each packet that becomes complete and is a command is one event of
`serverStep`.  `wire_refines` says that this is what the server does, however the streams of the
clients are cut into reads and interleaved.
-/

namespace SledServer

open SledServer.Core Flex

/-! ## The server with its readers -/

/-- The server as the command handler finds it.  `stack` is what the uninitialised `command_t` holds
in the calls of the handler that are to come. -/
structure Process where
  server : Server
  stack : ℕ → CommandT

/-- The server with the readers of its connections. -/
structure Wire where
  process : Process
  reader : Conn → Reader Unit

/-- What can happen, to the byte. -/
inductive WireEvent
  | connect (conn : Conn)
  /-- `net_on_read` has read these bytes. -/
  | receive (conn : Conn) (buf : List UInt8)
  | disconnect (conn : Conn)
  | timeout (tcurrent now : ℚ)
  | read (o : CanOutcome) (now : ℚ) (r : ReadResult)
  | watchdog (now : ℚ)

/-- The reader in another context. -/
def Reader.within {σ τ : Type} (ctx : τ) (r : Reader σ) : Reader τ where
  conn := r.conn
  live := r.live
  ctx := ctx
  allocs := r.allocs
  calls := r.calls
  texts := r.texts
  received := r.received

section Step

variable (F : Numerals) (fresh : Conn → ℕ → ℕ → UInt8)

/-- `rtc3d_command_handler`, for the reader of one connection. -/
def wireServer (conn : Conn) : Rtc3dServer Process where
  commandHandler text p := do
    let v ← serverStep F p.server (.command conn text (p.stack 0))
    .ok (⟨v, fun n => p.stack (n + 1)⟩, decide (conn ∉ v.connected))
  fresh := fresh conn

/-- An event that is none of the readers' business. -/
def Wire.serve (e : ServerEvent) (w : Wire) : Except Fault Wire := do
  let v ← (serverStep F w.process.server e).mapError .process
  .ok { w with process := { w.process with server := v } }

/-- One step. -/
def wireStep (w : Wire) : WireEvent → Except Fault Wire
  | .connect conn => do
    let u ← w.serve F (.connect conn)
    if conn ∈ w.process.server.connected then .ok u
    else .ok { u with reader := Function.update u.reader conn (connectHandler ()) }
  | .receive conn buf =>
    if conn ∈ w.process.server.connected then do
      let r ← readHandler (wireServer F fresh conn) ((w.reader conn).within w.process) buf
      .ok ⟨r.ctx, Function.update w.reader conn (r.within ())⟩
    else .ok w
  | .disconnect conn => w.serve F (.disconnect conn)
  | .timeout tcurrent now => w.serve F (.timeout tcurrent now)
  | .read o now r => w.serve F (.read o now r)
  | .watchdog now => w.serve F (.watchdog now)

end Step

/-- The server before anything has come. -/
def Wire.init (v : Server) (stack : ℕ → CommandT) : Wire := ⟨⟨v, stack⟩, fun _ => connectHandler ()⟩

/-! ## What the clients mean -/

/-- The packet that the bytes are, if they are one. -/
def packet? (bs : List UInt8) : Option Packet :=
  if 8 ≤ bs.length ∧ ofBig (bs.take 4) = bs.length then
    some ⟨UInt32.ofNat (ofBig ((bs.drop 4).take 4)), bs.drop 8⟩
  else none

/-- The text of a command ends with the packet, or with a zero in it. -/
def Packet.text (p : Packet) : List UInt8 := p.body.takeWhile (· ≠ 0)

/-- A connection that has sent these bytes since its last packet. -/
structure Line where
  pending : List UInt8
  stack : ℕ → CommandT

/-- One more byte, and the command that it completes. -/
def Line.byte (conn : Conn) : Transducer Line UInt8 ServerEvent := fun l b =>
  match packet? (l.pending ++ [b]) with
  | none => ({ l with pending := l.pending ++ [b] }, [])
  | some p =>
    if p.type.toNat = PTYPE_COMMAND then
      (⟨[], fun n => l.stack (n + 1)⟩, [.command conn p.text (l.stack 0)])
    else ({ l with pending := [] }, [])

/-- All connections that there are. -/
structure Lines where
  pending : Conn → Option (List UInt8)
  stack : ℕ → CommandT

/-- The events of the server that an event amounts to. -/
def Lines.event : Transducer Lines WireEvent ServerEvent := fun l e =>
  match e with
  | .connect conn =>
    ({ l with pending := Function.update l.pending conn (some ((l.pending conn).getD [])) },
      [.connect conn])
  | .receive conn buf =>
    match l.pending conn with
    | none => (l, [])
    | some bs =>
      let line := (Line.byte conn).after ⟨bs, l.stack⟩ buf
      (⟨Function.update l.pending conn (some line.pending), line.stack⟩,
        (Line.byte conn).emits ⟨bs, l.stack⟩ buf)
  | .disconnect conn =>
    ({ l with pending := Function.update l.pending conn none }, [.disconnect conn])
  | .timeout tcurrent now => (l, [.timeout tcurrent now])
  | .read o now r => (l, [.read o now r])
  | .watchdog now => (l, [.watchdog now])

/-- Nobody is connected. -/
def Lines.init (stack : ℕ → CommandT) : Lines := ⟨fun _ => none, stack⟩

/-- The byte does not complete the length of a packet without a type, or of one that is too long for
the eight bits of `data_left`, nor does it complete a command to end the connection. -/
def Line.Fits (F : Numerals) (l : Line) (b : UInt8) : Prop :=
  (l.pending.length = 3 →
    8 ≤ ofBig (l.pending ++ [b]) ∧ ofBig (l.pending ++ [b]) ≤ 259) ∧
  ∀ p ∈ packet? (l.pending ++ [b]), p.type.toNat = PTYPE_COMMAND →
    ∀ command ∈ parsed? F p.text (l.stack 0), command.type ≠ .bye

instance (F : Numerals) (l : Line) (b : UInt8) : Decidable (l.Fits F b) :=
  inferInstanceAs (Decidable (_ ∧ _))

/-- The bytes are packets that fit, as far as they have come. -/
def Lines.Fits (F : Numerals) (l : Lines) : WireEvent → Prop
  | .receive conn buf => ∀ bs ∈ l.pending conn,
      (Line.byte conn).Accepts (Line.Fits F) ⟨bs, l.stack⟩ buf
  | _ => True

instance (F : Numerals) (l : Lines) (e : WireEvent) : Decidable (l.Fits F e) := by
  unfold Lines.Fits
  split <;> infer_instance

lemma packet?_of_short {bs : List UInt8} (h : bs.length < 8) : packet? bs = none :=
  if_neg fun h' => by omega

/-- After the length, a packet is as long as its length says. -/
lemma packet?_payload {head payload : List UInt8} (hhead : head.length = 4) :
    packet? (head ++ payload) =
      if 4 ≤ payload.length ∧ ofBig head = 4 + payload.length then
        some ⟨UInt32.ofNat (ofBig (payload.take 4)), payload.drop 4⟩
      else none := by
  have hdrop : (head ++ payload).drop 8 = payload.drop 4 := by
    rw [show (8 : ℕ) = 4 + 4 from rfl, ← List.drop_drop, List.drop_left' hhead]
  rw [packet?, List.take_left' hhead, List.drop_left' hhead, hdrop, List.length_append, hhead]
  congr 1
  simp only [eq_iff_iff, and_congr_left_iff]
  omega

/-! ## The reader and its line -/

section Tracking

variable {σ : Type} {V : Rtc3dServer σ} {r : Reader σ} {bs : List UInt8} {b : UInt8}

/-- The reader has come as far as these bytes of a packet: they are part of the length, or the
length and a part of what follows it. -/
inductive Reader.Tracks (r : Reader σ) (bs : List UInt8) : Prop
  | length (hlive : r.live = true) (hshort : bs.length < 4)
      (hleft : r.conn.sizeLeft + bs.length = 4)
      (hsize : r.conn.size = ofBig bs * 256 ^ r.conn.sizeLeft)
  | payload {head done rest : List UInt8} (hbs : bs = head ++ done) (hhead : head.length = 4)
      (hmid : r.Midway done rest) (hrest : rest ≠ []) (hlength : ofBig head = 4 + r.conn.size)
      (htype : 4 ≤ r.conn.size)

lemma tracks_within {τ : Type} {ctx : τ} (h : r.Tracks bs) : (r.within ctx).Tracks bs := by
  cases h with
  | length hlive hshort hleft hsize => exact .length hlive hshort hleft hsize
  | payload hbs hhead hmid hrest hlength htype =>
    exact .payload hbs hhead
      ⟨hmid.live, hmid.sizeLeft, hmid.size, hmid.dataLeft, hmid.len, hmid.small, hmid.stored⟩ hrest
      hlength htype

lemma tracks_of_idle (h : r.Idle) : r.Tracks [] :=
  .length h.live (by simp) (by simp [h.sizeLeft]) (by simp [h.size, ofBig])

/-- Only the number of the bytes to come matters. -/
lemma Reader.Midway.congr {done rest rest' : List UInt8} (h : r.Midway done rest)
    (hlength : rest'.length = rest.length) : r.Midway done rest' where
  live := h.live
  sizeLeft := h.sizeLeft
  size := hlength ▸ h.size
  dataLeft := hlength ▸ h.dataLeft
  len := h.len
  small := h.small
  stored := h.stored

/-- A byte of the length. -/
lemma readByte_length (hlive : r.live = true) (hshort : bs.length < 4)
    (hleft : r.conn.sizeLeft + bs.length = 4)
    (hsize : r.conn.size = ofBig bs * 256 ^ r.conn.sizeLeft)
    (hfit : bs.length = 3 → 8 ≤ ofBig (bs ++ [b]) ∧ ofBig (bs ++ [b]) ≤ 259) :
    ∃ u, readByte V r b = .ok u ∧ u.Tracks (bs ++ [b]) ∧ u.ctx = r.ctx := by
  have hpow : 256 ^ r.conn.sizeLeft = 256 ^ (r.conn.sizeLeft - 1) * 256 := by
    rw [← pow_succ]
    congr 1
    omega
  have hset : setByte r.conn.size (r.conn.sizeLeft - 1) b =
      ofBig (bs ++ [b]) * 256 ^ (r.conn.sizeLeft - 1) := by
    have hpos : 0 < 256 ^ (r.conn.sizeLeft - 1) := by positivity
    have hbyte : r.conn.size / 256 ^ (r.conn.sizeLeft - 1) % 256 = 0 := by
      rw [hsize, hpow, ← Nat.mul_assoc, Nat.mul_right_comm, Nat.mul_div_cancel _ hpos,
        Nat.mul_mod_left]
    rw [setByte, hbyte, Nat.zero_mul, Nat.sub_zero, hsize, hpow, ofBig_concat]
    ring
  refine ⟨_, readByte_of_header hlive (by omega), ?_, ?_⟩
  · by_cases hone : r.conn.sizeLeft = 1
    · obtain ⟨hlow, hhigh⟩ := hfit (by omega)
      rw [headerByte_of_one hone]
      rw [hone] at hset
      simp only [Nat.sub_self, pow_zero, Nat.mul_one] at hset
      have hsub : sub32 (ofBig (bs ++ [b])) 4 = ofBig (bs ++ [b]) - 4 := by
        rw [sub32_of_le (by omega) (by omega)]
      rw [hset, hsub]
      refine @Reader.Tracks.payload _ _ _ (bs ++ [b]) []
        (List.replicate (ofBig (bs ++ [b]) - 4) 0) (by simp) (by simp; omega) ?_ ?_ ?_ ?_
      · exact {
          live := hlive
          sizeLeft := rfl
          size := by simp [Reader.headed]
          dataLeft := by
            simp only [Reader.headed, List.length_replicate]
            omega
          len := by
            simp only [Reader.headed]
            omega
          small := by
            simp only [Reader.headed]
            omega
          stored := rfl }
      · rw [ne_eq, List.replicate_eq_nil_iff]
        omega
      · simp only [Reader.headed]
        omega
      · simp only [Reader.headed]
        omega
    · rw [headerByte_of_one_lt (by omega)]
      refine .length hlive (by simp; omega) ?_ ?_
      · simp only [Reader.counted_sizeLeft, List.length_append, List.length_singleton]
        omega
      · rw [Reader.counted_size, Reader.counted_sizeLeft, hset]
  · simp only [headerByte]
    split <;> rfl

/-- The type of the packet in the data buffer. -/
lemma getUint32_of_bytes {d : Block} {n : ℕ} {payload : List UInt8} (hbytes : d.bytes n = payload)
    (hn : 4 ≤ n) (hlen : n ≤ d.len) : d.getUint32 0 = some (ofBig (payload.take 4)) := by
  have htake : payload.take 4 = [d.cell 0, d.cell 1, d.cell 2, d.cell 3] := by
    rw [← hbytes, Block.bytes, ← List.map_take, List.take_range, min_eq_left hn]
    rfl
  rw [Block.getUint32, if_pos (by omega), htake]
  simp only [ofBig, List.reverse_cons, List.reverse_nil, List.nil_append, List.cons_append,
    ofLittle_cons, ofLittle_nil]
  congr 1
  ring

/-- The text of the command in the data buffer, once the terminating zero has been stored. -/
lemma text_of_bytes {d : Block} {n : ℕ} {payload : List UInt8} (hbytes : d.bytes n = payload)
    (hn : 4 ≤ n) (hlen : d.len = n + 1) :
    ∃ d', d.store n 0 = some d' ∧ d'.text 4 = some ((payload.drop 4).takeWhile (· ≠ 0)) := by
  have hlength : payload.length = n := by
    rw [← hbytes, Block.bytes, List.length_map, List.length_range]
  refine ⟨_, Block.store_eq_some.mpr ⟨by omega, rfl⟩, ?_⟩
  have hall := @Block.bytes_update d payload (by rw [hlength, hbytes]) 0
  rw [hlength] at hall
  have hcells : (List.range' 4 (n + 1 - 4)).map (Function.update d.cell n 0) =
      payload.drop 4 ++ [0] := by
    have hdrop := congrArg (List.drop 4) hall
    rw [Block.bytes, ← List.map_drop, List.range_eq_range', List.drop_range',
      List.drop_append_of_le_length (by omega)] at hdrop
    simpa using hdrop
  have hzero : (payload.drop 4 ++ [0]).takeWhile (· ≠ 0) = (payload.drop 4).takeWhile (· ≠ 0) := by
    rw [List.takeWhile_append]
    split
    next h =>
      rw [(List.takeWhile_prefix _).eq_of_length h]
      simp
    next => rfl
  simp only [Block.text, hlen, hcells]
  rw [if_pos (by simp), hzero]

/-- A packet that is complete is dropped, or its text is given to the command handler. -/
lemma packetHandler_of_bytes {payload : List UInt8}
    (hbytes : r.conn.data.bytes r.conn.size = payload) (htype : 4 ≤ r.conn.size)
    (hlen : r.conn.data.len = r.conn.size + 1) :
    (ofBig (payload.take 4) ≠ PTYPE_COMMAND → packetHandler V r = .ok r) ∧
    (ofBig (payload.take 4) = PTYPE_COMMAND → ∃ data, packetHandler V r =
      match V.commandHandler ((payload.drop 4).takeWhile (· ≠ 0)) r.ctx with
      | .error h => .error (.process h)
      | .ok (ctx, disconnected) =>
        .ok (r.answered data ((payload.drop 4).takeWhile (· ≠ 0)) ctx disconnected)) := by
  have hget := getUint32_of_bytes hbytes htype (by omega)
  obtain ⟨data, hstore, htext⟩ := text_of_bytes hbytes htype hlen
  unfold packetHandler
  rw [hget]
  simp only [inside, ok_bind]
  constructor
  · intro hne
    rw [if_neg hne]
  · intro hcommand
    refine ⟨data, ?_⟩
    rw [if_pos hcommand, hstore]
    simp only [ok_bind]
    rw [htext]
    rfl

end Tracking

/-! ## One byte -/

section Bytes

variable {F : Numerals} {fresh : Conn → ℕ → ℕ → UInt8} {conn : Conn} {text : List UInt8}
  {memory : CommandT} {v v' : Server}

/-- Only `Bye` ends a connection. -/
lemma connected_of_command (h : serverStep F v (.command conn text memory) = .ok v')
    (hbye : ∀ command, parsed? F text memory = some command → command.type ≠ .bye) :
    v'.connected = v.connected := by
  simp only [serverStep] at h
  split at h
  · obtain ⟨⟨ctx, replies⟩, hcall, h⟩ := bind_eq_ok.mp h
    have hreplies : .disconnect ∉ replies := by
      rw [commandHandler_eq] at hcall
      cases hparsed : parsed? F text memory with
      | none =>
        rw [hparsed] at hcall
        cases hcall
        simp
      | some command =>
        rw [hparsed] at hcall
        rw [disconnect_mem_handleCommand hcall]
        exact hbye command hparsed
    cases h
    simp [Server.replied, hreplies]
  · cases h
    rfl

/-- The reader of a connection, its line, and the server. -/
structure Reads (conn : Conn) (clients : List Conn) (l : Line) (r : Reader Process) (v : Server) :
    Prop where
  tracks : r.Tracks l.pending
  stack : r.ctx.stack = l.stack
  server : r.ctx.server = v
  connected : v.connected = clients
  mem : conn ∈ clients

variable {clients : List Conn} {l : Line} {r : Reader Process} {b : UInt8}

lemma Line.byte_of_none (h : packet? (l.pending ++ [b]) = none) :
    Line.byte conn l b = ({ l with pending := l.pending ++ [b] }, []) := by
  unfold Line.byte
  rw [h]

lemma Line.byte_of_command {p : Packet} (h : packet? (l.pending ++ [b]) = some p)
    (hp : p.type.toNat = PTYPE_COMMAND) : Line.byte conn l b =
      (⟨[], fun n => l.stack (n + 1)⟩, [.command conn p.text (l.stack 0)]) := by
  unfold Line.byte
  rw [h]
  exact if_pos hp

lemma Line.byte_of_other {p : Packet} (h : packet? (l.pending ++ [b]) = some p)
    (hp : p.type.toNat ≠ PTYPE_COMMAND) : Line.byte conn l b = ({ l with pending := [] }, []) := by
  unfold Line.byte
  rw [h]
  exact if_neg hp

/-- A command comes from a client that is connected, and does not end the connection. -/
def Heard (F : Numerals) (v : Server) : ServerEvent → Prop
  | .command conn text memory =>
    conn ∈ v.connected ∧ ∀ command ∈ parsed? F text memory, command.type ≠ .bye
  | _ => True

/-- The last byte of a packet. -/
lemma reads_packet (h : Reads conn clients l r v) {head done : List UInt8}
    (hpending : l.pending = head ++ done) (hhead : head.length = 4) (hmid : r.Midway done [b])
    (hlength : ofBig head = 4 + r.conn.size) (htype : 4 ≤ r.conn.size) (hfit : l.Fits F b) :
    Matches .process (Reads conn clients (Line.byte conn l b).1)
      (readByte (wireServer F fresh conn) r b) (run (serverStep F) v (Line.byte conn l b).2) := by
  have hsize : r.conn.size = done.length + 1 := hmid.size
  obtain ⟨data, hstore, hlen, hbytes⟩ := hmid.store
  have hpayload : (done ++ [b]).length = done.length + 1 := by simp
  have hpacket : packet? (l.pending ++ [b]) =
      some ⟨UInt32.ofNat (ofBig ((done ++ [b]).take 4)), (done ++ [b]).drop 4⟩ := by
    rw [hpending, List.append_assoc, packet?_payload hhead, if_pos (by omega)]
  have htoNat : (UInt32.ofNat (ofBig ((done ++ [b]).take 4))).toNat =
      ofBig ((done ++ [b]).take 4) := by
    have hlt := ofBig_lt ((done ++ [b]).take 4)
    rw [List.length_take, min_eq_left (by omega)] at hlt
    exact UInt32.toNat_ofNat_of_lt hlt
  have hcalled : (r.called data b).conn.data.bytes (r.called data b).conn.size = done ++ [b] := by
    rw [← hbytes, ← hsize]
    rfl
  obtain ⟨hother, hcommand⟩ := packetHandler_of_bytes (V := wireServer F fresh conn) hcalled htype
    hlen
  rw [readByte_of_packet hmid.live hmid.sizeLeft hmid.dataLeft hstore]
  by_cases hp : ofBig ((done ++ [b]).take 4) = PTYPE_COMMAND
  · obtain ⟨data', hcall⟩ := hcommand hp
    rw [hcall, Line.byte_of_command hpacket (htoNat.trans hp)]
    have hbye := hfit.2 _ hpacket (htoNat.trans hp)
    have hctx : (r.called data b).ctx = r.ctx := rfl
    simp only [wireServer, hctx, h.server, h.stack, run_cons, run_nil, Packet.text] at hbye ⊢
    cases hstep : serverStep F v (.command conn (((done ++ [b]).drop 4).takeWhile (· ≠ 0))
        (l.stack 0)) with
    | error halt => exact .error halt
    | ok v' =>
      have hconnected := (connected_of_command hstep hbye).trans h.connected
      have hmem : conn ∈ v'.connected := hconnected ▸ h.mem
      simp only [ok_bind, hmem, not_true_eq_false, decide_false]
      exact .ok ⟨tracks_of_idle ⟨rfl, rfl, rfl⟩, rfl, rfl, hconnected, h.mem⟩
  · rw [hother hp, Line.byte_of_other hpacket (by rwa [htoNat]), ok_bind]
    have hlive : (r.called data b).live = true := hmid.live
    rw [if_pos hlive]
    exact .ok ⟨tracks_of_idle ⟨hlive, rfl, rfl⟩, h.stack, h.server, h.connected, h.mem⟩

/-- Each byte is matched by the command that it completes, if it does. -/
lemma reads_byte (h : Reads conn clients l r v) (hfit : l.Fits F b) :
    Matches .process (Reads conn clients (Line.byte conn l b).1)
      (readByte (wireServer F fresh conn) r b) (run (serverStep F) v (Line.byte conn l b).2) := by
  cases h.tracks with
  | length hlive hshort hleft hsize =>
    obtain ⟨u, hbyte, htracks, hctx⟩ := readByte_length (V := wireServer F fresh conn) hlive hshort
      hleft hsize hfit.1
    rw [hbyte, Line.byte_of_none (packet?_of_short (by simp; omega)), run_nil]
    exact .ok ⟨htracks, hctx ▸ h.stack, hctx ▸ h.server, h.connected, h.mem⟩
  | payload hbs hhead hmid hrest hlength htype =>
    rename_i head done rest
    cases rest with
    | nil => exact absurd rfl hrest
    | cons x rest =>
      replace hmid : r.Midway done (b :: rest) := hmid.congr (by simp)
      cases rest with
      | nil => exact reads_packet h hbs hhead hmid hlength htype hfit
      | cons y rest =>
        obtain ⟨u, hbyte, hmid', -⟩ := midway_stored (V := wireServer F fresh conn) hmid (by simp)
        obtain ⟨data, hstore, -⟩ := hmid.store
        have hsize := hmid.size
        have hdata := hmid.dataLeft
        simp only [List.length_cons] at hsize hdata
        have hu := readByte_of_payload (V := wireServer F fresh conn) hmid.live hmid.sizeLeft
          (by omega) hstore
        rw [hbyte] at hu
        cases hu
        have hnone : packet? (l.pending ++ [b]) = none := by
          rw [hbs, List.append_assoc, packet?_payload hhead, if_neg]
          simp only [List.length_append, List.length_singleton]
          omega
        rw [hbyte, Line.byte_of_none hnone, run_nil]
        refine .ok ⟨?_, h.stack, h.server, h.connected, h.mem⟩
        exact .payload (by rw [hbs, List.append_assoc]) hhead hmid' (by simp) hlength htype

lemma heard_byte (h : Reads conn clients l r v) (hfit : l.Fits F b) :
    Guarded (serverStep F) (Heard F) v (Line.byte conn l b).2 := by
  cases hpacket : packet? (l.pending ++ [b]) with
  | none =>
    rw [Line.byte_of_none hpacket]
    trivial
  | some p =>
    by_cases hp : p.type.toNat = PTYPE_COMMAND
    · rw [Line.byte_of_command hpacket hp]
      exact ⟨⟨h.connected ▸ h.mem, hfit.2 p hpacket hp⟩, fun _ _ => trivial⟩
    · rw [Line.byte_of_other hpacket hp]
      trivial

end Bytes

/-! ## Runs -/

section Runs

variable {F : Numerals} {fresh : Conn → ℕ → ℕ → UInt8} {l : Lines} {w : Wire} {v v' : Server}

/-- All connections with their readers, and the server. -/
structure Wire.Follows (l : Lines) (w : Wire) (v : Server) : Prop where
  server : w.process.server = v
  stack : w.process.stack = l.stack
  connected : ∀ conn, conn ∈ v.connected ↔ l.pending conn ≠ none
  tracks : ∀ conn, ∀ bs ∈ l.pending conn, (w.reader conn).Tracks bs

/-- The connections after an event that is none of the readers' business. -/
lemma connected_of_step {e : ServerEvent} (h : serverStep F v e = .ok v')
    (he : ∀ conn text memory, e ≠ .command conn text memory) (conn : Conn) :
    conn ∈ v'.connected ↔
      (conn ∈ v.connected ∧ e ≠ .disconnect conn) ∨ e = .connect conn := by
  cases e with
  | connect c =>
    simp only [serverStep] at h
    split at h
    next hc =>
      cases h
      constructor
      · exact fun hconn => .inl ⟨hconn, by simp⟩
      · rintro (⟨hconn, -⟩ | hconn)
        · exact hconn
        · cases hconn
          exact hc
    next hc =>
      cases h
      simp [eq_comm (a := c) (b := conn)]
  | command c text memory => exact absurd rfl (he c text memory)
  | disconnect c =>
    simp only [serverStep] at h
    split at h
    next hc =>
      cases h
      simp [netDisconnect, eq_comm (a := c) (b := conn)]
    next hc =>
      cases h
      constructor
      · rintro hconn
        refine .inl ⟨hconn, ?_⟩
        rintro ⟨⟩
        exact hc hconn
      · rintro (⟨hconn, -⟩ | ⟨⟨⟩⟩)
        exact hconn
  | timeout tcurrent now =>
    cases h
    simp [onTimeout]
  | read o now r =>
    obtain ⟨s, -, h⟩ := bind_eq_ok.mp h
    cases h
    simp
  | watchdog now =>
    obtain ⟨s, -, h⟩ := bind_eq_ok.mp h
    cases h
    simp

/-- The step of the server that goes with it. -/
lemma matches_serve (h : Wire.Follows l w v) {e : ServerEvent} {Q : Wire → Server → Prop}
    (hQ : ∀ v', serverStep F v e = .ok v' →
      Q { w with process := { w.process with server := v' } } v') :
    Matches .process Q (w.serve F e) (run (serverStep F) v [e]) := by
  rw [Wire.serve, h.server, run_cons]
  cases hstep : serverStep F v e with
  | error halt => exact .error halt
  | ok v' => exact .ok (hQ v' hstep)

/-- A connection that there was not before gets a reader. -/
lemma follows_connect (h : Wire.Follows l w v) (conn : Conn) :
    Matches .process (Wire.Follows (Lines.event l (.connect conn)).1)
      (wireStep F fresh w (.connect conn))
      (run (serverStep F) v (Lines.event l (.connect conn)).2) := by
  obtain ⟨v', hstep⟩ : ∃ v', serverStep F v (.connect conn) = .ok v' := by
    simp only [serverStep]
    split <;> exact ⟨_, rfl⟩
  have hpending : ∀ c, c ∈ v'.connected ↔
      Function.update l.pending conn (some ((l.pending conn).getD [])) c ≠ none := by
    intro c
    rw [connected_of_step hstep (by simp), h.connected]
    by_cases hc : c = conn
    · simp [hc]
    · simp [hc, eq_comm (a := conn) (b := c)]
  simp only [wireStep, Wire.serve, h.server, hstep, Lines.event, run_cons, run_nil, ok_bind,
    Except.mapError]
  by_cases hmem : conn ∈ v.connected
  · rw [if_pos hmem]
    refine .ok ⟨rfl, h.stack, hpending, fun c bs hbs => h.tracks c bs ?_⟩
    by_cases hc : c = conn
    · obtain ⟨pending, hsome⟩ := Option.ne_none_iff_exists'.mp ((h.connected conn).mp hmem)
      simpa [hc, hsome] using hbs
    · simpa [hc] using hbs
  · rw [if_neg hmem]
    have hnone : l.pending conn = none := not_not.mp ((h.connected conn).not.mp hmem)
    refine .ok ⟨rfl, h.stack, hpending, fun c bs hbs => ?_⟩
    by_cases hc : c = conn
    · obtain rfl : bs = [] := by simpa [hc, hnone, eq_comm] using hbs
      simpa [hc] using tracks_of_idle (r := connectHandler ()) ⟨rfl, rfl, rfl⟩
    · simpa [hc] using h.tracks c bs (by simpa [hc] using hbs)

/-- The reader of a connection that there is, with the state of the server in it. -/
lemma reads_within (h : Wire.Follows l w v) {conn : Conn} {pending : List UInt8}
    (hpending : l.pending conn = some pending) :
    Reads conn v.connected ⟨pending, l.stack⟩ ((w.reader conn).within w.process) v := by
  refine ⟨tracks_within (h.tracks conn pending hpending), h.stack, h.server, rfl, ?_⟩
  rw [h.connected, hpending]
  simp

/-- The bytes that have been read go through the reader of their connection. -/
lemma follows_receive (h : Wire.Follows l w v) {conn : Conn} {buf : List UInt8}
    (hfit : l.Fits F (.receive conn buf)) :
    Matches .process (Wire.Follows (Lines.event l (.receive conn buf)).1)
      (wireStep F fresh w (.receive conn buf))
      (run (serverStep F) v (Lines.event l (.receive conn buf)).2) := by
  simp only [wireStep, h.server, Lines.event]
  cases hpending : l.pending conn with
  | none =>
    rw [if_neg (by rw [h.connected, hpending]; simp)]
    exact .ok h
  | some pending =>
    have hreads := reads_within h hpending
    rw [if_pos hreads.mem]
    have hbyte : ∀ (l : Line) (r : Reader Process) (u : Server) (b : UInt8),
        Reads conn v.connected l r u → l.Fits F b →
        Matches .process (Reads conn v.connected (Line.byte conn l b).1)
          (readByte (wireServer F fresh conn) r b) (run (serverStep F) u (Line.byte conn l b).2) :=
      fun _ _ _ _ => reads_byte
    refine (Matches.run hbyte hreads (hfit pending hpending)).bind_ok
      fun r v' hr => ⟨hr.server, hr.stack, fun c => ?_, ?_⟩
    · rw [hr.connected, h.connected]
      by_cases hc : c = conn
      · simp [hc, hpending]
      · simp [hc]
    · intro c bs hbs
      by_cases hc : c = conn
      · obtain rfl : _ = bs := by simpa [hc] using hbs
        simpa [hc] using tracks_within hr.tracks
      · simpa [hc] using h.tracks c bs (by simpa [hc] using hbs)

lemma follows_disconnect (h : Wire.Follows l w v) (conn : Conn) :
    Matches .process (Wire.Follows (Lines.event l (.disconnect conn)).1)
      (wireStep F fresh w (.disconnect conn))
      (run (serverStep F) v (Lines.event l (.disconnect conn)).2) := by
  refine matches_serve h fun v' hstep => ⟨rfl, h.stack, fun c => ?_, fun c bs hbs => ?_⟩
  · rw [connected_of_step hstep (by simp), h.connected]
    by_cases hc : c = conn
    · simp [Lines.event, hc]
    · simp [Lines.event, hc, eq_comm (a := conn) (b := c)]
  · by_cases hc : c = conn
    · simp [Lines.event, hc] at hbs
    · exact h.tracks c bs (by simpa [Lines.event, hc] using hbs)

/-- Each step is matched by the events that it amounts to. -/
lemma follows_step {e : WireEvent} (h : Wire.Follows l w v) (hfit : l.Fits F e) :
    Matches .process (Wire.Follows (Lines.event l e).1) (wireStep F fresh w e)
      (run (serverStep F) v (Lines.event l e).2) := by
  have hquiet : ∀ e : ServerEvent, (∀ conn text memory, e ≠ .command conn text memory) →
      (∀ conn, e ≠ .connect conn) → (∀ conn, e ≠ .disconnect conn) →
      Matches .process (Wire.Follows l) (w.serve F e) (run (serverStep F) v [e]) := by
    intro e hcommand hconnect hdisconnect
    refine matches_serve h fun v' hstep => ⟨rfl, h.stack, fun conn => ?_, h.tracks⟩
    rw [connected_of_step hstep hcommand conn, ← h.connected]
    simp [hconnect, hdisconnect]
  cases e with
  | connect conn => exact follows_connect h conn
  | receive conn buf => exact follows_receive h hfit
  | disconnect conn => exact follows_disconnect h conn
  | timeout tcurrent now => exact hquiet _ (by simp) (by simp) (by simp)
  | read o now r => exact hquiet _ (by simp) (by simp) (by simp)
  | watchdog now => exact hquiet _ (by simp) (by simp) (by simp)

lemma heard_step {e : WireEvent} (h : Wire.Follows l w v) (hfit : l.Fits F e) :
    Guarded (serverStep F) (Heard F) v (Lines.event l e).2 := by
  cases e with
  | receive conn buf =>
    simp only [Lines.event]
    cases hpending : l.pending conn with
    | none => trivial
    | some pending =>
      have hbyte := @reads_byte F (fun _ _ _ => 0) conn
      exact Matches.guarded (f := Line.byte conn) (Q := Reads conn v.connected)
        (fun _ _ _ _ => hbyte) (fun _ _ _ _ => heard_byte) (reads_within h hpending)
        (hfit pending hpending)
  | connect | disconnect | timeout | read | watchdog => exact ⟨trivial, fun _ _ => trivial⟩

lemma follows_steps (l : Lines) (w : Wire) (v : Server) (e : WireEvent)
    (h : Wire.Follows l w v) (hfit : l.Fits F e) :
    Matches .process (Wire.Follows (Lines.event l e).1) (wireStep F fresh w e)
      (run (serverStep F) v (Lines.event l e).2) :=
  follows_step h hfit

lemma follows_init {mem : SledEnv} {now : ℚ} {o : CanOutcome} (h : serverStart mem now o = .ok v)
    (stack : ℕ → CommandT) : Wire.Follows (.init stack) (.init v stack) v := by
  obtain ⟨s, -, rfl⟩ := serverStart_ok h
  exact ⟨rfl, rfl, by simp [Lines.init], by simp [Lines.init]⟩

end Runs

/-- **The server does what its clients mean.**  As long as the streams of the clients consist of
packets of up to 259 bytes and nobody sends `Bye`, a run of the server over the bytes, however they
are cut into reads and interleaved with each other and with everything else, is the run over the
commands in the packets, each at the time when its last byte is read: it ends in the same state, or
the process stops for the same reason. -/
theorem wire_refines (F : Numerals) (fresh : Conn → ℕ → ℕ → UInt8) {mem : SledEnv} {now : ℚ}
    {o : CanOutcome} {v : Server} (hstart : serverStart mem now o = .ok v) (stack : ℕ → CommandT)
    (es : List WireEvent) (hfit : Lines.event.Accepts (Lines.Fits F) (.init stack) es) :
    (run (wireStep F fresh) (.init v stack) es).map (fun w => w.process.server) =
      (run (serverStep F) v (Lines.event.emits (.init stack) es)).mapError .process :=
  (Matches.run follows_steps (follows_init hstart stack) hfit).map_eq fun _ _ h => h.server

/-- Two clients take turns: the one asks for the stream in two pieces, the other sends a packet
without a command, and then `Home`. -/
def twoClients : List WireEvent :=
  [.connect 0, .connect 1, .receive 0 [0, 0, 0, 20, 0, 0], .receive 1 [0, 0, 0, 8, 0, 0, 0],
    .receive 0 ([0, 1] ++ bytes "StreamFrames"), .timeout 3 3, .receive 1 [4, 0, 0, 0, 12],
    .receive 1 ([0, 0, 0, 1] ++ bytes "Home"), .timeout 4 4]

theorem wire_refines_two_clients : ∃ v, serverStart someMemory 0 ⟨.success, true⟩ = .ok v ∧
    (run (wireStep .decimal fun _ _ _ => 0) (.init v fun _ => .zero) twoClients).map
        (fun w => w.process.server) =
      (run (serverStep .decimal) v
        (Lines.event.emits (.init fun _ => .zero) twoClients)).mapError .process := by
  obtain ⟨v, hv⟩ := exists_serverStart
  exact ⟨v, hv, wire_refines .decimal (fun _ _ _ => 0) hv (fun _ => .zero) twoClients
    (by decide +kernel)⟩

end SledServer
