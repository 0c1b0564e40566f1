import SledServer.Server.Service
import SledServer.Server.Streams

/-!
# Who gets the stream

The frames of the stream should go to the connections whose last stream command was a start.  The
server keeps one list for all of them, which the command handler and the disconnect handler edit.
`streams_iff` says when this list is right: the text `SetInternalStatus` is carried out as whatever
the uninitialised `command_t` holds, which can be a stream command.
-/

namespace SledServer

open SledServer.Core Flex

/-! ## What commands do to the list -/

section Handler

variable {conn : Conn} {command : Command} {ctx ctx' : ServerCtx} {replies : List Reply}

lemma tlateProfileId_streamClients (profile : ℤ) (ctx : ServerCtx) :
    (tlateProfileId profile ctx).2.streamClients = ctx.streamClients := by
  unfold tlateProfileId
  split <;> rfl

lemma profileSetNext_streamClients (command : Command) (id : ℤ) (ctx : ServerCtx) :
    (profileSetNext command id ctx).1.streamClients = ctx.streamClients := by
  unfold profileSetNext
  split
  · dsimp only
    split
    · exact tlateProfileId_streamClients _ _
    · exact tlateProfileId_streamClients _ _
  · rfl

lemma cmdProfileSet_streamClients (command : Command) (ctx : ServerCtx) :
    (cmdProfileSet command ctx).1.streamClients = ctx.streamClients := by
  have htlate := tlateProfileId_streamClients command.profile ctx
  simp only [cmdProfileSet, profileSetTarget]
  split
  · exact htlate
  · split
    · exact htlate
    · split
      · exact htlate
      · exact (profileSetNext_streamClients command _ _).trans htlate

lemma replyTo_streamClients {x : Except Halt (ℤ × Sled)} {ok err : String}
    (h : (x >>= fun a => .ok (replyTo ctx ok err a)) = .ok (ctx', replies)) :
    ctx'.streamClients = ctx.streamClients := by
  obtain ⟨a, -, h⟩ := bind_eq_ok.mp h
  cases h
  rfl

/-- The list after a command. -/
def Command.clients (command : Command) (conn : Conn) (clients : List Conn) : List Conn :=
  match command.type with
  | .bye => clients.filter (· ≠ conn)
  | .streamframes =>
    if command.boolean then clients.filter (· ≠ conn) ++ [conn] else clients.filter (· ≠ conn)
  | _ => clients

lemma handleCommand_streamClients (h : handleCommand conn command ctx = .ok (ctx', replies)) :
    ctx'.streamClients = command.clients conn ctx.streamClients := by
  unfold handleCommand at h
  unfold Command.clients
  cases htype : command.type <;> rw [htype] at h <;> dsimp only at h ⊢
  case profileSet =>
    rw [← cmdProfileSet_streamClients command ctx]
    exact congrArg (fun r => r.1.streamClients) (Except.ok.inj h).symm
  case profileExecute =>
    exact (replyTo_streamClients h).trans (tlateProfileId_streamClients command.profile ctx)
  case lights => exact replyTo_streamClients h
  case sinusoid | rsinusoid => split at h <;> exact replyTo_streamClients h
  all_goals
    cases h
    rfl

end Handler

/-! ## What the clients have asked for -/

/-- The stream command that a text is, if it is one: whether it is a start.  A `command_t` that is
all zero holds none. -/
def streamCommand? (F : Numerals) (text : List UInt8) : Option Bool :=
  (parsed? F text .zero).bind fun command =>
    if command.type = .streamframes then some command.boolean else none

/-- The server, with what follows from the events alone: whether the last stream command of a
connection was a start, and how often the timer has expired. -/
structure Watched where
  server : Server
  started : Conn → Bool
  timeouts : ℕ

/-- The stream commands of the connections after an event. -/
def startedAfter (F : Numerals) (w : Watched) : ServerEvent → Conn → Bool
  | .connect conn =>
    if conn ∈ w.server.connected then w.started else Function.update w.started conn false
  | .command conn text _ =>
    if conn ∈ w.server.connected then
      match streamCommand? F text with
      | some start => Function.update w.started conn start
      | none => w.started
    else w.started
  | _ => w.started

/-- The number of expiries after an event. -/
def timeoutsAfter (w : Watched) : ServerEvent → ℕ
  | .timeout _ _ => w.timeouts + 1
  | _ => w.timeouts

/-- One step of the server that is watched. -/
def watchStep (F : Numerals) (w : Watched) (e : ServerEvent) : Except Halt Watched := do
  let v ← serverStep F w.server e
  .ok ⟨v, startedAfter F w e, timeoutsAfter w e⟩

/-- The server before anything happens. -/
def Watched.init (v : Server) : Watched := ⟨v, fun _ => false, 0⟩

/-- Watching changes nothing. -/
lemma run_watchStep (F : Numerals) (w : Watched) (es : List ServerEvent) :
    (run (watchStep F) w es).map Watched.server = run (serverStep F) w.server es := by
  refine run_map (fun w e => ?_) w es
  unfold watchStep
  cases serverStep F w.server e <;> rfl

/-- The connection is there, and its last stream command was a start. -/
def Watched.Subscribed (w : Watched) (conn : Conn) : Prop :=
  conn ∈ w.server.connected ∧ w.started conn = true

instance (w : Watched) (conn : Conn) : Decidable (w.Subscribed conn) :=
  inferInstanceAs (Decidable (_ ∧ _))

/-- The list holds the subscribed connections, each once, and each of them gets one frame when the
timer expires, with the number of earlier expiries. -/
structure Watched.Streams (w : Watched) : Prop where
  nodup : w.server.ctx.streamClients.Nodup
  clients : ∀ conn, conn ∈ w.server.ctx.streamClients ↔ w.Subscribed conn
  frames : ∀ tcurrent now, ∃ frames : List (Conn × Reply),
    (onTimeout tcurrent now w.server).sent = w.server.sent ++ frames ∧
    (∀ conn, (frames.map Prod.fst).count conn = if w.Subscribed conn then 1 else 0) ∧
    ∀ frame ∈ frames, ∃ time position,
      frame.2 = .data (UInt32.ofNat w.timeouts) time position

/-- A text that assigns nothing is not taken for a stream command, or for one that changes
nothing. -/
def KeepsStreams (F : Numerals) (w : Watched) : ServerEvent → Prop
  | .command conn text memory =>
    conn ∈ w.server.connected → yylex F text = [word .setinternalstatus] →
      memory.type = .streamframes → memory.boolean = w.started conn
  | _ => True

/-! ## What the parser makes of a stream command -/

section Parser

variable {F : Numerals} {text : List UInt8}

lemma streamCommand?_of_setinternalstatus (h : yylex F text = [word .setinternalstatus]) :
    streamCommand? F text = none := by
  rw [streamCommand?, parsed?_of_setinternalstatus h]
  rfl

/-- Otherwise it does not matter what the `command_t` held before. -/
lemma streamCommand?_eq (h : yylex F text ≠ [word .setinternalstatus]) (memory : CommandT) :
    streamCommand? F text = (parsed? F text memory).bind fun command =>
      if command.type = .streamframes then some command.boolean else none := by
  unfold streamCommand?
  rcases parserParseString_cases F text with ⟨s, -, hs, -⟩ | ⟨hs, -⟩ | hparse
  · rw [parsed?_of_sentence hs, parsed?_of_sentence hs]
    cases s with
    | profileSet _ _ _ _ _ next => obtain _ | ⟨_, _ | _, _ | _⟩ := next <;> rfl
    | _ => rfl
  · exact absurd hs h
  · rw [parsed?, parsed?, if_pos (hparse _), if_pos (hparse _)]

end Parser

/-! ## One step -/

section Step

variable {F : Numerals} {v v' : Server} {w w' : Watched} {e : ServerEvent}

/-- What keeps the stream right. -/
structure Watched.Inv (w : Watched) : Prop where
  nodup : w.server.ctx.streamClients.Nodup
  clients : ∀ conn, conn ∈ w.server.ctx.streamClients ↔ w.Subscribed conn
  frame : w.server.frame = UInt32.ofNat w.timeouts

lemma Watched.Inv.streams (h : w.Inv) : w.Streams := by
  refine ⟨h.nodup, h.clients, fun tcurrent now => ⟨_, rfl, fun conn => ?_, fun frame hframe => ?_⟩⟩
  · have hid : (Prod.fst ∘ fun conn : Conn =>
      (conn, streamedFrame tcurrent now w.server)) = id := rfl
    rw [List.map_map, hid, List.map_id, h.nodup.count]
    simp only [h.clients]
  · obtain ⟨conn, -, rfl⟩ := List.mem_map.mp hframe
    rw [← h.frame]
    exact ⟨_, _, rfl⟩

/-- The list after a command holds its connection if the command is a start, or if it is no stream
command and the list has held it before. -/
lemma mem_clients {command : Command} {conn c : Conn} {clients : List Conn} :
    c ∈ command.clients conn clients ↔
      if c = conn then
        command.type ≠ .bye ∧
          if command.type = .streamframes then command.boolean = true else c ∈ clients
      else c ∈ clients := by
  unfold Command.clients
  cases htype : command.type
  case bye => by_cases hc : c = conn <;> simp [hc]
  case streamframes =>
    by_cases hc : c = conn <;> cases hboolean : command.boolean <;> simp [hc]
  all_goals simp

lemma nodup_clients {command : Command} {conn : Conn} {clients : List Conn}
    (h : clients.Nodup) : (command.clients conn clients).Nodup := by
  have hfilter : (clients.filter (· ≠ conn)).Nodup := h.filter _
  unfold Command.clients
  split
  · exact hfilter
  · split
    · exact List.nodup_append.mpr ⟨hfilter, List.nodup_singleton _, by simp⟩
    · exact hfilter
  · exact h

lemma mem_connected_replied {conn c : Conn} {ctx : ServerCtx} {replies : List Reply} :
    c ∈ (v.replied conn ctx replies).connected ↔
      c ∈ v.connected ∧ ¬ (c = conn ∧ .disconnect ∈ replies) := by
  unfold Server.replied
  by_cases hreplies : .disconnect ∈ replies <;> simp [hreplies]

/-- What a command does to what its connection has asked for. -/
lemma startedAfter_command {conn : Conn} {text : List UInt8} {memory : CommandT} {command : Command}
    (hconn : conn ∈ w.server.connected) (hok : KeepsStreams F w (.command conn text memory))
    (hparsed : parsed? F text memory = some command) (c : Conn) :
    startedAfter F w (.command conn text memory) c =
      if c = conn ∧ command.type = .streamframes then command.boolean else w.started c := by
  simp only [startedAfter, if_pos hconn]
  by_cases hstatus : yylex F text = [word .setinternalstatus]
  · rw [parsed?_of_setinternalstatus hstatus] at hparsed
    obtain rfl := Option.some.inj hparsed
    rw [streamCommand?_of_setinternalstatus hstatus]
    split
    next hc =>
      obtain ⟨rfl, htype⟩ := hc
      exact (hok hconn hstatus htype).symm
    next => rfl
  · rw [streamCommand?_eq hstatus memory, hparsed, Option.bind_some]
    by_cases htype : command.type = .streamframes
    · rw [if_pos htype]
      simp [Function.update_apply, htype]
    · rw [if_neg htype]
      simp [htype]

lemma inv_connect {conn : Conn} (hw : w.Inv) (h : watchStep F w (.connect conn) = .ok w') :
    w'.Inv := by
  obtain ⟨v, hv, hw'⟩ := bind_eq_ok.mp h
  cases hw'
  simp only [serverStep] at hv
  split at hv
  next hconn =>
    cases hv
    refine ⟨hw.nodup, fun c => ?_, hw.frame⟩
    rw [hw.clients c]
    simp [Watched.Subscribed, startedAfter, hconn]
  next hconn =>
    cases hv
    refine ⟨hw.nodup, fun c => (hw.clients c).trans ?_, hw.frame⟩
    by_cases hc : c = conn
    · subst hc
      simp [Watched.Subscribed, startedAfter, hconn]
    · simp [Watched.Subscribed, startedAfter, hconn, hc]

lemma inv_disconnect {conn : Conn} (hw : w.Inv)
    (h : watchStep F w (.disconnect conn) = .ok w') : w'.Inv := by
  obtain ⟨v, hv, hw'⟩ := bind_eq_ok.mp h
  cases hw'
  simp only [serverStep] at hv
  split at hv
  next hconn =>
    cases hv
    refine ⟨hw.nodup.filter _, fun c => ?_, hw.frame⟩
    have hclients := hw.clients c
    by_cases hc : c = conn
    · simp [netDisconnect, rtc3dDisconnectHandler, Watched.Subscribed, hc]
    · simpa [netDisconnect, rtc3dDisconnectHandler, Watched.Subscribed, startedAfter, hc]
        using hclients
  next hconn =>
    cases hv
    exact ⟨hw.nodup, hw.clients, hw.frame⟩

lemma inv_command {conn : Conn} {text : List UInt8} {memory : CommandT} (hw : w.Inv)
    (hok : KeepsStreams F w (.command conn text memory))
    (h : watchStep F w (.command conn text memory) = .ok w') : w'.Inv := by
  obtain ⟨v, hv, hw'⟩ := bind_eq_ok.mp h
  cases hw'
  simp only [serverStep] at hv
  split at hv
  next hconn =>
    obtain ⟨⟨ctx, replies⟩, hr, hv⟩ := bind_eq_ok.mp hv
    cases hv
    rw [commandHandler_eq] at hr
    cases hparsed : parsed? F text memory with
    | none =>
      rw [hparsed] at hr
      cases hr
      have hnone : streamCommand? F text = none := by
        by_cases hstatus : yylex F text = [word .setinternalstatus]
        · exact streamCommand?_of_setinternalstatus hstatus
        · rw [streamCommand?_eq hstatus memory, hparsed]
          rfl
      refine ⟨hw.nodup, fun c => (hw.clients c).trans ?_, hw.frame⟩
      simp [Watched.Subscribed, startedAfter, hnone, mem_connected_replied]
    | some command =>
      rw [hparsed] at hr
      have hclients := handleCommand_streamClients hr
      refine ⟨?_, fun c => ?_, hw.frame⟩
      · exact hclients ▸ nodup_clients hw.nodup
      · have hmem : c ∈ ctx.streamClients ↔
          c ∈ command.clients conn w.server.ctx.streamClients := by
          rw [hclients]
        refine hmem.trans ?_
        rw [mem_clients, Watched.Subscribed, mem_connected_replied,
          disconnect_mem_handleCommand hr]
        simp only [startedAfter_command hconn hok hparsed, hw.clients, Watched.Subscribed]
        by_cases hc : c = conn
        · subst hc
          by_cases htype : command.type = .streamframes
          · simp [htype, hconn]
          · simp [htype, and_assoc, and_left_comm]
        · simp [hc]
  next hconn =>
    cases hv
    refine ⟨hw.nodup, fun c => (hw.clients c).trans ?_, hw.frame⟩
    simp [Watched.Subscribed, startedAfter, hconn]

lemma inv_step (hw : w.Inv) (hok : KeepsStreams F w e) (h : watchStep F w e = .ok w') : w'.Inv := by
  cases e with
  | connect conn => exact inv_connect hw h
  | command conn text memory => exact inv_command hw hok h
  | disconnect conn => exact inv_disconnect hw h
  | timeout tcurrent now =>
    cases h
    refine ⟨hw.nodup, hw.clients, ?_⟩
    simp only [onTimeout, timeoutsAfter, hw.frame]
    exact (UInt32.ofNat_add _ _).symm
  | read o now r =>
    obtain ⟨v, hv, hw'⟩ := bind_eq_ok.mp h
    cases hw'
    obtain ⟨s, -, hv⟩ := bind_eq_ok.mp hv
    cases hv
    exact ⟨hw.nodup, hw.clients, hw.frame⟩
  | watchdog now =>
    obtain ⟨v, hv, hw'⟩ := bind_eq_ok.mp h
    cases hw'
    obtain ⟨s, -, hv⟩ := bind_eq_ok.mp hv
    cases hv
    exact ⟨hw.nodup, hw.clients, hw.frame⟩

/-- A text that assigns nothing can be carried out as a stream command. -/
lemma not_streams_of_not_keepsStreams (hok : ¬ KeepsStreams F w e) :
    ∃ w', watchStep F w e = .ok w' ∧ ¬ w'.Streams := by
  cases e with
  | command conn text memory =>
    simp only [KeepsStreams, Classical.not_imp] at hok
    obtain ⟨hconn, hstatus, htype, hboolean⟩ := hok
    have hcall : ∃ ctx replies, handleCommand conn memory.toCommand w.server.ctx =
        .ok (ctx, replies) := by
      unfold handleCommand
      rw [htype]
      exact ⟨_, _, rfl⟩
    obtain ⟨ctx, replies, hcall⟩ := hcall
    have hclients := handleCommand_streamClients hcall
    have hreplies : .disconnect ∉ replies := by
      rw [disconnect_mem_handleCommand hcall, htype]
      decide
    have hstep := serverStep_command hconn (parsed?_of_setinternalstatus hstatus memory) hcall
    refine ⟨_, by rw [watchStep, hstep]; rfl, fun hstreams => hboolean ?_⟩
    have hmem : conn ∈ ctx.streamClients ↔ _ := hstreams.clients conn
    simp only [Watched.Subscribed, mem_connected_replied, startedAfter, if_pos hconn,
      streamCommand?_of_setinternalstatus hstatus] at hmem
    have hlist : conn ∈ ctx.streamClients ↔ memory.boolean = true := by
      rw [hclients, mem_clients]
      simp [htype]
    rw [Bool.eq_iff_iff, ← hlist]
    simpa [hconn, hreplies] using hmem
  | _ => exact absurd trivial hok

end Step

/-! ## Runs -/

lemma inv_init {mem : SledEnv} {now : ℚ} {o : CanOutcome} {v : Server}
    (h : serverStart mem now o = .ok v) : (Watched.init v).Inv := by
  obtain ⟨s, -, rfl⟩ := serverStart_ok h
  exact ⟨List.nodup_nil, by simp [Watched.init, Watched.Subscribed], rfl⟩

/-- In all states of a run the stream goes where it should exactly when no text without an
assignment is carried out as a stream command that makes a difference. -/
theorem streams_iff (F : Numerals) {mem : SledEnv} {now : ℚ} {o : CanOutcome} {v : Server}
    (h : serverStart mem now o = .ok v) (es : List ServerEvent) :
    (∀ pre, pre <+: es → ∀ w, run (watchStep F) (Watched.init v) pre = .ok w → w.Streams) ↔
      Guarded (watchStep F) (KeepsStreams F) (Watched.init v) es := by
  have hinit := inv_init h
  refine guarded_iff (P := fun x => ∀ w, x = .ok w → w.Streams) (I := Watched.Inv)
    (fun w e w' => inv_step) ?_ ?_ hinit ?_
  · exact fun w e hw hok w' hw' => (inv_step hw hok hw').streams
  · intro w e hw hok hall
    obtain ⟨w', hw', hnot⟩ := not_streams_of_not_keepsStreams hok
    exact hnot (hall w' hw')
  · rintro w ⟨⟩
    exact hinit.streams

/-- A client starts the stream, which has two frames. -/
theorem streams_iff_session : ∃ v w, serverStart someMemory 0 ⟨.success, true⟩ = .ok v ∧
    run (watchStep .decimal) (Watched.init v) someSession = .ok w ∧
    w.server.ctx.streamClients = [0] ∧ w.server.frame = 2 ∧
    ((∀ pre, pre <+: someSession → ∀ w, run (watchStep .decimal) (Watched.init v) pre = .ok w →
      w.Streams) ↔
        Guarded (watchStep .decimal) (KeepsStreams .decimal) (Watched.init v) someSession) := by
  obtain ⟨v, hv⟩ := exists_serverStart
  obtain ⟨u, hu, hclients, hframe, -⟩ := someSession_run hv
  obtain ⟨w, hw, rfl⟩ := map_eq_ok.mp ((run_watchStep .decimal (.init v) someSession).trans hu)
  exact ⟨v, w, hv, hw, hclients, hframe, streams_iff .decimal hv someSession⟩

/-- A second client sends `SetInternalStatus` while the memory of the `command_t` still holds the
stream command of the first one. -/
theorem streams_after_setinternalstatus : ∃ v w,
    serverStart someMemory 0 ⟨.success, true⟩ = .ok v ∧
    run (watchStep .decimal) (Watched.init v) [.connect 0, .connect 1,
      .command 0 (bytes "StreamFrames") .zero,
      .command 1 (bytes "SetInternalStatus")
        { CommandT.zero with type := .streamframes, boolean := true }] = .ok w ∧
    ¬ w.Streams := by
  obtain ⟨v, hv⟩ := exists_serverStart
  have hstatus : yylex .decimal (bytes "SetInternalStatus") = [word .setinternalstatus] :=
    yylex_printed (.one (.keyword (k := ("setinternalstatus", word .setinternalstatus)) (by decide)
      (by decide))) (by decide)
  have hfirst : ∃ w, run (watchStep .decimal) (Watched.init v) [.connect 0, .connect 1,
      .command 0 (bytes "StreamFrames") .zero] = .ok w ∧
      1 ∈ w.server.connected ∧ w.started 1 = false := by
    obtain ⟨s, -, rfl⟩ := serverStart_ok hv
    have hconn : 0 ∈ (⟨⟨s, [], fun _ => none⟩, [0, 1], 0, [], none⟩ : Server).connected := by simp
    have hcall := serverStep_streamFrames hconn
    refine ⟨_, run_cons_ok.mpr ⟨_, rfl, run_cons_ok.mpr ⟨_, rfl, run_cons_ok.mpr
      ⟨_, bind_eq_ok.mpr ⟨_, hcall, rfl⟩, rfl⟩⟩⟩, ?_, ?_⟩
    · simp [mem_connected_replied]
    · simp [startedAfter, streamCommand?, parsed?_streamFrames, Sentence.assign, Watched.init]
  obtain ⟨w, hw, hconn, hstarted⟩ := hfirst
  obtain ⟨w', hw', hnot⟩ := not_streams_of_not_keepsStreams (F := .decimal) (w := w)
    (e := .command 1 (bytes "SetInternalStatus")
      { CommandT.zero with type := .streamframes, boolean := true }) fun hok =>
      absurd (hok hconn hstatus rfl) (by simp [hstarted])
  exact ⟨v, w', hv, run_append_ok.mpr ⟨w, hw, run_cons_ok.mpr ⟨w', hw', rfl⟩⟩, hnot⟩

end SledServer
