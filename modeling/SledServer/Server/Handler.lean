import Mathlib.Algebra.Order.Field.Rat
import Mathlib.Algebra.Order.Group.Unbundled.Abs
import SledServer.Sled.Events

/-!
# Commands of the clients

`server.cc`: the context of the server and the function that carries out a command, once the
parser has made a `Command` of its text.  The replies are a list, in the order in which they are
sent to the connection that the command came from.
-/

namespace SledServer

open SledServer.Core

/-! ## Commands and replies -/

/-- `command_type_t`. -/
inductive CommandType
  | setbyteorder
  | sendcurrentframe
  | sendstatus
  | streamframes
  | profileExecute
  | profileSet
  | sinusoid
  | rsinusoid
  | lights
  | bye
  | home
  | clearfault
  | setinternalstatus
  | sendinternalstatus
  deriving DecidableEq, Repr

/-- `byte_order_t`. -/
inductive ByteOrder
  | bigEndian
  | littleEndian
  deriving DecidableEq, Repr

/-- `command_t`, without the field `status`, which nothing reads. -/
structure Command where
  type : CommandType
  boolean : Bool
  byteOrder : ByteOrder
  amplitude : ℚ
  period : ℚ
  profile : ℤ
  table : ℤ
  positionType : PositionType
  position : ℚ
  time : ℚ
  nextProfile : ℤ
  nextDelay : ℚ
  blendType : BlendType

/-- What the handler does to the connection. -/
inductive Reply
  /-- `rtc3d_send_error`. -/
  | error (text : String)
  /-- `rtc3d_send_command`. -/
  | command (text : String)
  /-- `rtc3d_send_data`; no position stands for `NAN`. -/
  | data (frame : UInt32) (time : UInt64) (position : Option ℚ)
  /-- `rtc3d_set_byte_order`. -/
  | setByteOrder (byteOrder : ByteOrder)
  /-- `rtc3d_disconnect`. -/
  | disconnect
  deriving DecidableEq

/-- A connection. -/
abbrev Conn := ℕ

/-- `sled_server_ctx_t`; `profileTlate` maps the profile ids of the protocol to those of the
sled. -/
structure ServerCtx where
  sled : Sled
  streamClients : List Conn
  profileTlate : ℤ → Option ℤ

/-- The same context with another sled. -/
def ServerCtx.withSled (ctx : ServerCtx) (s : Sled) : ServerCtx := { ctx with sled := s }

/-! ## The handler -/

/-- `tlate_profile_id`. -/
def tlateProfileId (profile : ℤ) (ctx : ServerCtx) : ℤ × ServerCtx :=
  match ctx.profileTlate profile with
  | some profileId => (profileId, ctx)
  | none =>
    let r := sledProfileCreate ctx.sled
    (r.1, { ctx with
      sled := r.2
      profileTlate := Function.update ctx.profileTlate profile (some r.1) })

/-- The second half of `cmd_profile_set`, once target and table have been stored. -/
def profileSetNext (command : Command) (profileId : ℤ) (ctx : ServerCtx) : ServerCtx × List Reply :=
  if command.nextProfile ≥ 0 then
    let (nextProfileId, ctx) := tlateProfileId command.nextProfile ctx
    if nextProfileId < 0 then (ctx, [.error "err-profile-set"])
    else
      (ctx.withSled (sledProfileSetNext profileId nextProfileId command.nextDelay
        command.blendType ctx.sled).2, [.command "ok-profile-set"])
  else
    (ctx.withSled (sledProfileSetNext profileId (-1) 0 .blnNone ctx.sled).2,
      [.command "ok-profile-set"])

/-- The first half of `cmd_profile_set`, once the profile is known. -/
def profileSetTarget (command : Command) (profileId : ℤ) (ctx : ServerCtx) :
    ServerCtx × List Reply :=
  let (retval, s) := sledProfileSetTarget profileId command.positionType command.position
    command.time ctx.sled
  if retval = -1 then (ctx.withSled s, [.error "err-profile-set"])
  else
    let (retval, s) := sledProfileSetTable profileId command.table s
    if retval = -1 then (ctx.withSled s, [.error "err-profile-set"])
    else profileSetNext command profileId (ctx.withSled s)

/-- `cmd_profile_set`.  There is no `break` after the check of the position. -/
def cmdProfileSet (command : Command) (ctx : ServerCtx) : ServerCtx × List Reply :=
  let (profileId, ctx) := tlateProfileId command.profile ctx
  if profileId < 0 then (ctx, [.error "err-profile-set"])
  else
    let refused := if |command.position| > 1 / 2 then [.error "err-profile-set"] else []
    let (ctx, replies) := profileSetTarget command profileId ctx
    (ctx, refused ++ replies)

/-- `rtc3d_disconnect_handler`. -/
def rtc3dDisconnectHandler (conn : Conn) (ctx : ServerCtx) : ServerCtx :=
  { ctx with streamClients := ctx.streamClients.filter (· ≠ conn) }

/-- The reply to a function of the library that returns 0 or -1. -/
def replyTo (ctx : ServerCtx) (ok err : String) (r : ℤ × Sled) : ServerCtx × List Reply :=
  (ctx.withSled r.2, [if r.1 = -1 then .error err else .command ok])

/-- The `switch` of `rtc3d_command_handler`. -/
def handleCommand (conn : Conn) (command : Command) (ctx : ServerCtx) :
    Except Halt (ServerCtx × List Reply) :=
  match command.type with
  | .setbyteorder =>
    .ok (ctx, [.setByteOrder command.byteOrder, .command "ok-setbyteorder"])
  | .streamframes =>
    let others := ctx.streamClients.filter (· ≠ conn)
    .ok ({ ctx with streamClients := if command.boolean then others ++ [conn] else others },
      [.command "ok-streamframes"])
  | .sendcurrentframe =>
    let r := sledRtGetPosition ctx.sled
    .ok (ctx, [if r.1 = -1 then .error "err-sendcurrentframe"
      else .data (-1) (-1) (r.2.map (· * 1000))])
  | .profileExecute => do
    let (profileId, ctx) := tlateProfileId command.profile ctx
    let r ← sledProfileExecute profileId ctx.sled
    .ok (replyTo ctx "ok-profile-execute" "err-profile-execute" r)
  | .profileSet => .ok (cmdProfileSet command ctx)
  | .sinusoid =>
    if command.boolean then do
      let r ← sledSinusoidStart command.amplitude command.period ctx.sled
      .ok (replyTo ctx "ok-sinusoid-start" "err-sinusoid-start" r)
    else do
      let r ← sledSinusoidStop ctx.sled
      .ok (replyTo ctx "ok-sinusoid-stop" "err-sinusoid-stop" r)
  | .rsinusoid =>
    if command.boolean then do
      let r ← sledRsinusoidStart command.amplitude command.period ctx.sled
      .ok (replyTo ctx "ok-rsinusoid-start" "err-rsinusoid-start" r)
    else do
      let r ← sledRsinusoidStop ctx.sled
      .ok (replyTo ctx "ok-rsinusoid-stop" "err-rsinusoid-stop" r)
  | .lights => do
    let r ← sledLightSetState command.boolean ctx.sled
    .ok (replyTo ctx "ok-light" "err-light" r)
  | .sendstatus | .home | .clearfault => .ok (ctx, [])
  -- Disconnecting runs the disconnect handler before it returns.
  | .bye => .ok (rtc3dDisconnectHandler conn ctx, [.command "bye", .disconnect])
  | .setinternalstatus | .sendinternalstatus => .ok (ctx, [.error "err-notsupported"])

/-- `rtc3d_command_handler`; no command stands for a text that the parser rejects. -/
def rtc3dCommandHandler (conn : Conn) (command : Option Command) (ctx : ServerCtx) :
    Except Halt (ServerCtx × List Reply) :=
  match command with
  | none => .ok (ctx, [.error "err-syntaxerror"])
  | some command => handleCommand conn command ctx

/-! ## What commands are answered with -/

/-- What a command may be answered with, a frame apart. -/
def CommandType.answers : CommandType → List Reply
  | .setbyteorder => [.command "ok-setbyteorder"]
  | .sendcurrentframe => [.error "err-sendcurrentframe"]
  | .sendstatus | .home | .clearfault => []
  | .streamframes => [.command "ok-streamframes"]
  | .profileExecute => [.command "ok-profile-execute", .error "err-profile-execute"]
  | .profileSet => [.command "ok-profile-set", .error "err-profile-set"]
  | .sinusoid => [.command "ok-sinusoid-start", .error "err-sinusoid-start",
      .command "ok-sinusoid-stop", .error "err-sinusoid-stop"]
  | .rsinusoid => [.command "ok-rsinusoid-start", .error "err-rsinusoid-start",
      .command "ok-rsinusoid-stop", .error "err-rsinusoid-stop"]
  | .lights => [.command "ok-light", .error "err-light"]
  | .bye => [.command "bye", .disconnect]
  | .setinternalstatus | .sendinternalstatus => [.error "err-notsupported"]

section Answers

variable {conn : Conn} {command : Command} {ctx : ServerCtx} {r : ServerCtx × List Reply}
  {reply : Reply}

lemma mem_replyTo {x : Except Halt (ℤ × Sled)} {ok err : String}
    (h : (x >>= fun a => .ok (replyTo ctx ok err a)) = .ok r) (hreply : reply ∈ r.2) :
    reply = .command ok ∨ reply = .error err := by
  obtain ⟨a, -, h⟩ := bind_eq_ok.mp h
  cases h
  simp only [replyTo, List.mem_singleton] at hreply
  split at hreply
  · exact .inr hreply
  · exact .inl hreply

lemma mem_profileSetNext {id : ℤ} (h : reply ∈ (profileSetNext command id ctx).2) :
    reply ∈ CommandType.profileSet.answers := by
  unfold profileSetNext at h
  split at h
  · dsimp only at h
    split at h <;> simp_all [CommandType.answers]
  · simp_all [CommandType.answers]

lemma mem_profileSetTarget {id : ℤ} (h : reply ∈ (profileSetTarget command id ctx).2) :
    reply ∈ CommandType.profileSet.answers := by
  simp only [profileSetTarget] at h
  split at h
  · simp_all [CommandType.answers]
  · split at h
    · simp_all [CommandType.answers]
    · exact mem_profileSetNext h

lemma mem_cmdProfileSet (h : reply ∈ (cmdProfileSet command ctx).2) :
    reply ∈ CommandType.profileSet.answers := by
  simp only [cmdProfileSet] at h
  split at h
  · simp_all [CommandType.answers]
  · rcases List.mem_append.mp h with h | h
    · split at h <;> simp_all [CommandType.answers]
    · exact mem_profileSetTarget h

/-- Each reply is one of the answers to the command, or the change of the byte order that comes
before the answer, or the current frame. -/
lemma mem_answers (h : handleCommand conn command ctx = .ok r) (hreply : reply ∈ r.2) :
    reply ∈ command.type.answers ∨
      (command.type = .setbyteorder ∧ reply = .setByteOrder command.byteOrder) ∨
      (command.type = .sendcurrentframe ∧ (sledRtGetPosition ctx.sled).1 ≠ -1 ∧
        reply = .data (-1) (-1) ((sledRtGetPosition ctx.sled).2.map (· * 1000))) := by
  unfold handleCommand at h
  cases htype : command.type <;> rw [htype] at h <;> dsimp only at h
  case profileSet =>
    cases h
    exact .inl (mem_cmdProfileSet hreply)
  case sendcurrentframe =>
    cases h
    rw [List.mem_singleton] at hreply
    by_cases hpos : (sledRtGetPosition ctx.sled).1 = -1
    · exact .inl (by simpa [hpos, CommandType.answers] using hreply)
    · exact .inr (.inr ⟨rfl, hpos, by simpa [hpos] using hreply⟩)
  case setbyteorder =>
    cases h
    rcases List.mem_cons.mp hreply with hreply | hreply
    · exact .inr (.inl ⟨rfl, hreply⟩)
    · exact .inl hreply
  case profileExecute | lights =>
    rcases mem_replyTo h hreply with hreply | hreply <;> simp [hreply, CommandType.answers]
  case sinusoid | rsinusoid =>
    split at h <;> rcases mem_replyTo h hreply with hreply | hreply <;>
      simp [hreply, CommandType.answers]
  all_goals
    cases h
    exact .inl hreply

end Answers

end SledServer
