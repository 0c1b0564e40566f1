import SledServer.Server.ProfileSet
import SledServer.Server.ParseString
import SledServer.Sled.Contents

/-!
# The server at work

`server.cc` with all that can happen to it: clients come, send commands and go, the timer of the
streams expires, and the sled hears from the drive.  `serverStep` runs one such event, and
`serverStart` is what `setup_sled_server_context` sets up.

Connections are numbers; the number of a connection that has been closed can be used again.
-/

namespace SledServer

open SledServer.Core Flex

/-! ## Commands -/

/-- `rtc3d_command_handler`, from the text on.  `memory` is what the uninitialised `command_t`
holds. -/
def commandHandler (F : Numerals) (conn : Conn) (text : List UInt8) (memory : CommandT)
    (ctx : ServerCtx) : Except Halt (ServerCtx × List Reply) :=
  let r := parserParseString F text memory
  rtc3dCommandHandler conn (if r.1 = -1 then none else some r.2.toCommand) ctx

/-- The command that the handler carries out, if the text is one. -/
def parsed? (F : Numerals) (text : List UInt8) (memory : CommandT) : Option Command :=
  if (parserParseString F text memory).1 = -1 then none
  else some (parserParseString F text memory).2.toCommand

lemma commandHandler_eq (F : Numerals) (conn : Conn) (text : List UInt8) (memory : CommandT)
    (ctx : ServerCtx) : commandHandler F conn text memory ctx =
      rtc3dCommandHandler conn (parsed? F text memory) ctx := rfl

lemma parsed?_of_setinternalstatus {F : Numerals} {text : List UInt8}
    (h : yylex F text = [word .setinternalstatus])
    (memory : CommandT) : parsed? F text memory = some memory.toCommand := by
  rw [parsed?, parserParseString_setinternalstatus h]
  rfl

lemma parsed?_of_sentence {F : Numerals} {text : List UInt8} {s : Sentence}
    (h : yylex F text = s.tokens) (memory : CommandT) :
    parsed? F text memory = some (s.assign F memory).toCommand := by
  rw [parsed?, parserParseString_sentence h]
  rfl

/-! ## State -/

/-- The process.  `connected` are the connections in `connection_data`, `frame` is the static
variable of `on_timeout`.  The source has no counterpart to the last two fields: what has been sent,
and the position in the last TPDO2 that has been processed. -/
structure Server where
  ctx : ServerCtx
  connected : List Conn
  frame : UInt32
  sent : List (Conn × Reply)
  tpdo2 : Option ℚ

/-- `net_disconnect`, with the handlers that it calls. -/
def netDisconnect (conn : Conn) (v : Server) : Server :=
  { v with
    ctx := rtc3dDisconnectHandler conn v.ctx
    connected := v.connected.filter (· ≠ conn) }

/-! ## Streaming -/

/-- `fmod(x, y)`. -/
def fmod (x y : ℚ) : ℚ := x - y * (x / y).num.tdiv (x / y).den

/-- `(uint64_t) x`. -/
def uint64 (x : ℚ) : UInt64 := UInt64.ofInt (x.num.tdiv x.den)

/-- The frame that `on_timeout` sends to every client.  `SAWTOOTH` is defined, so the position that
the sled returns is not used; of what the sled returns only the time is sent. -/
def streamedFrame (tcurrent now : ℚ) (v : Server) : Reply :=
  let r := sledRtGetPositionAndTime now v.ctx.sled
  .data v.frame (uint64 (r.2.2 * 1000000)) (some (fmod tcurrent 10 * 1000))

/-- `on_timeout`.  The first test, `events & EV_TIMEOUT == 0`, is never true.  The clock is read
once before the call of the sled, and maybe once inside it. -/
def onTimeout (tcurrent now : ℚ) (v : Server) : Server :=
  { v with
    frame := v.frame + 1
    sent := v.sent ++ v.ctx.streamClients.map fun conn => (conn, streamedFrame tcurrent now v) }

/-! ## Events -/

/-- What can happen to the server. -/
inductive ServerEvent
  | connect (conn : Conn)
  /-- A packet with a command has come. -/
  | command (conn : Conn) (text : List UInt8) (memory : CommandT)
  /-- The end of the stream, a read error or a write error. -/
  | disconnect (conn : Conn)
  | timeout (tcurrent now : ℚ)
  | read (o : CanOutcome) (now : ℚ) (r : ReadResult)
  | watchdog (now : ℚ)

/-- The server after a command has been carried out. -/
def Server.replied (conn : Conn) (ctx : ServerCtx) (replies : List Reply) (v : Server) : Server :=
  { v with
    ctx := ctx
    connected := if .disconnect ∈ replies then v.connected.filter (· ≠ conn) else v.connected
    sent := v.sent ++ replies.map fun reply => (conn, reply) }

/-- One step of the server.  Nothing comes from connections that do not exist. -/
def serverStep (F : Numerals) (v : Server) : ServerEvent → Except Halt Server
  | .connect conn =>
    if conn ∈ v.connected then .ok v else .ok { v with connected := v.connected ++ [conn] }
  | .command conn text memory =>
    if conn ∈ v.connected then do
      let r ← commandHandler F conn text memory v.ctx
      .ok (v.replied conn r.1 r.2)
    else .ok v
  | .disconnect conn => if conn ∈ v.connected then .ok (netDisconnect conn v) else .ok v
  | .timeout tcurrent now => .ok (onTimeout tcurrent now v)
  | .read o now r => do
    let s ← sledStep v.ctx.sled (.read o now r)
    .ok { v with ctx := v.ctx.withSled s, tpdo2 := (tpdo2? v.ctx.sled r).or v.tpdo2 }
  | .watchdog now => do
    let s ← sledStep v.ctx.sled (.watchdog now)
    .ok { v with ctx := v.ctx.withSled s }

lemma serverStep_command {F : Numerals} {v : Server} {conn : Conn} {text : List UInt8}
    {memory : CommandT} {command : Command} {ctx : ServerCtx} {replies : List Reply}
    (hconn : conn ∈ v.connected) (hparsed : parsed? F text memory = some command)
    (hcall : handleCommand conn command v.ctx = .ok (ctx, replies)) :
    serverStep F v (.command conn text memory) = .ok (v.replied conn ctx replies) := by
  simp only [serverStep, if_pos hconn, commandHandler_eq, hparsed, rtc3dCommandHandler, hcall]
  rfl

/-- What a step sends. -/
lemma sent_of_step {F : Numerals} {v v' : Server} {e : ServerEvent}
    (h : serverStep F v e = .ok v') :
    v'.sent.drop v.sent.length = match e with
      | .command conn text memory =>
        if conn ∈ v.connected then
          match commandHandler F conn text memory v.ctx with
          | .ok r => r.2.map fun reply => (conn, reply)
          | .error _ => []
        else []
      | .timeout tcurrent now =>
        v.ctx.streamClients.map fun conn => (conn, streamedFrame tcurrent now v)
      | _ => [] := by
  cases e with
  | connect conn =>
    simp only [serverStep] at h
    split at h <;> cases h <;> simp
  | command conn text memory =>
    simp only [serverStep] at h
    split at h
    next hconn =>
      obtain ⟨r, hr, h⟩ := bind_eq_ok.mp h
      cases h
      simp only [hr, if_pos hconn, Server.replied, List.drop_left]
    next hconn =>
      cases h
      simp [hconn]
  | disconnect conn =>
    simp only [serverStep] at h
    split at h <;> cases h <;> simp [netDisconnect]
  | timeout tcurrent now =>
    cases h
    simp [onTimeout]
  | read o now r =>
    obtain ⟨s, -, h⟩ := bind_eq_ok.mp h
    cases h
    simp
  | watchdog now =>
    obtain ⟨s, -, h⟩ := bind_eq_ok.mp h
    cases h
    simp

/-- A client asks for the stream. -/
lemma parsed?_streamFrames : parsed? .decimal (bytes "StreamFrames") .zero =
    some (Sentence.streamframes.assign .decimal .zero).toCommand := by
  have hkeyword : yylex .decimal (bytes "StreamFrames") = Sentence.streamframes.tokens :=
    yylex_printed (.one (.keyword (k := ("streamframes", word .streamframes)) (by decide)
      (by decide))) (by decide)
  exact parsed?_of_sentence hkeyword .zero

lemma serverStep_streamFrames {v : Server} {conn : Conn} (h : conn ∈ v.connected) :
    serverStep .decimal v (.command conn (bytes "StreamFrames") .zero) =
      .ok (v.replied conn
        { v.ctx with streamClients := v.ctx.streamClients.filter (· ≠ conn) ++ [conn] }
        [.command "ok-streamframes"]) :=
  serverStep_command h parsed?_streamFrames rfl

lemma parsed?_sendCurrentFrame : parsed? .decimal (bytes "SendCurrentFrame") .zero =
    some (Sentence.sendcurrentframe.assign .decimal .zero).toCommand := by
  have hkeyword : yylex .decimal (bytes "SendCurrentFrame") = Sentence.sendcurrentframe.tokens :=
    yylex_printed (.one (.keyword (k := ("sendcurrentframe", word .sendcurrentframe)) (by decide)
      (by decide))) (by decide)
  exact parsed?_of_sentence hkeyword .zero

lemma parsed?_littleEndian : parsed? .decimal (bytes "SetByteOrder LittleEndian") .zero =
    some ((Sentence.byteorder .littleEndian).assign .decimal .zero).toCommand := by
  have hprinted : Printed .decimal (Sentence.byteorder .littleEndian).tokens
      (bytes "SetByteOrder" ++ [0x20] ++ bytes "LittleEndian") :=
    .cons (.keyword (k := ("setbyteorder", word .setbyteorder)) (by decide) (by decide))
      (by decide)
      (.one (.keyword (k := ("littleendian", word .littleendian)) (by decide) (by decide)))
  exact parsed?_of_sentence (yylex_printed hprinted (by decide)) .zero

/-- A client asks for the current frame too early. -/
lemma serverStep_sendCurrentFrame {v : Server} {conn : Conn} (h : conn ∈ v.connected)
    (hnet : v.ctx.sled.env.mchNet ≠ .operational) :
    serverStep .decimal v (.command conn (bytes "SendCurrentFrame") .zero) =
      .ok (v.replied conn v.ctx [.error "err-sendcurrentframe"]) := by
  refine serverStep_command h parsed?_sendCurrentFrame ?_
  simp [handleCommand, Sentence.assign, sledRtGetPosition, hnet]

/-- A client asks for little-endian packets. -/
lemma serverStep_littleEndian {v : Server} {conn : Conn} (h : conn ∈ v.connected) :
    serverStep .decimal v (.command conn (bytes "SetByteOrder LittleEndian") .zero) =
      .ok (v.replied conn v.ctx [.setByteOrder .littleEndian, .command "ok-setbyteorder"]) :=
  serverStep_command h parsed?_littleEndian rfl

/-- `setup_sled_server_context`. -/
def serverStart (mem : SledEnv) (now : ℚ) (o : CanOutcome) : Except Halt Server := do
  let s ← sledCreate mem now o
  .ok { ctx := ⟨s, [], fun _ => none⟩, connected := [], frame := 0, sent := [], tpdo2 := none }

lemma serverStart_ok {mem : SledEnv} {now : ℚ} {o : CanOutcome} {v : Server}
    (h : serverStart mem now o = .ok v) : ∃ s, sledCreate mem now o = .ok s ∧
      v = ⟨⟨s, [], fun _ => none⟩, [], 0, [], none⟩ := by
  obtain ⟨s, hs, hv⟩ := bind_eq_ok.mp h
  cases hv
  exact ⟨s, hs, rfl⟩

/-- The server starts when the device can be opened. -/
lemma exists_serverStart : ∃ v, serverStart someMemory 0 ⟨.success, true⟩ = .ok v := by
  obtain ⟨v, hv, -⟩ := exists_of_okAnd (x := serverStart someMemory 0 ⟨.success, true⟩)
    (p := fun _ => true) (by decide +kernel)
  exact ⟨v, hv⟩

/-- A client asks for the stream, gets a frame of it, and asks for the current frame, before the
network is up; then it asks for little-endian packets, and gets another frame of the stream. -/
def someSession : List ServerEvent :=
  [.connect 0, .command 0 (bytes "StreamFrames") .zero, .timeout 3 3,
    .command 0 (bytes "SendCurrentFrame") .zero,
    .command 0 (bytes "SetByteOrder LittleEndian") .zero, .timeout 4 4]

/-- The client stays in the list of the stream, and its commands are answered. -/
lemma someSession_run {mem : SledEnv} {now : ℚ} {o : CanOutcome} {v : Server}
    (h : serverStart mem now o = .ok v) :
    ∃ w, run (serverStep .decimal) v someSession = .ok w ∧ w.ctx.streamClients = [0] ∧
      w.frame = 2 ∧ (0, .command "ok-streamframes") ∈ w.sent ∧
      (0, .error "err-sendcurrentframe") ∈ w.sent ∧ (0, .command "ok-setbyteorder") ∈ w.sent := by
  obtain ⟨s, hs, rfl⟩ := serverStart_ok h
  have hnet : s.env.mchNet ≠ .operational := by
    obtain ⟨-, ⟨hn, -⟩ | ⟨hn, -⟩⟩ := sledCreate_linked hs <;> simp [hn]
  have hconn : 0 ∈ (⟨⟨s, [], fun _ => none⟩, [0], 0, [], none⟩ : Server).connected := by simp
  have hstream := serverStep_streamFrames hconn
  let u := onTimeout 3 3 ⟨⟨s, [0], fun _ => none⟩, [0], 0, [(0, .command "ok-streamframes")], none⟩
  have hconn' : 0 ∈ u.connected := by simp [u, onTimeout]
  have hframe := serverStep_sendCurrentFrame hconn' hnet
  have hconn'' : 0 ∈ (u.replied 0 u.ctx [.error "err-sendcurrentframe"]).connected := by
    simpa [Server.replied] using hconn'
  have horder := serverStep_littleEndian hconn''
  refine ⟨_, run_cons_ok.mpr ⟨_, rfl, run_cons_ok.mpr ⟨_, hstream, run_cons_ok.mpr ⟨_, rfl,
    run_cons_ok.mpr ⟨_, hframe, run_cons_ok.mpr ⟨_, horder, run_cons_ok.mpr ⟨_, rfl, rfl⟩⟩⟩⟩⟩⟩,
    rfl, rfl, ?_, ?_, ?_⟩ <;> simp [u, onTimeout, Server.replied]

/-- The server has come from its start to `v` by way of the events. -/
def Server.Reaches (F : Numerals) (es : List ServerEvent) (v : Server) : Prop :=
  ∃ mem now o v₀, serverStart mem now o = .ok v₀ ∧ run (serverStep F) v₀ es = .ok v

end SledServer
