import SledServer.Server.Orders
import SledServer.Server.Wire

/-!
# What a client hears

A client sees the server through the bytes it sends and the bytes it gets.  Its own commands are
answered one by one, in order; in between come the frames of the stream, whose numbers run through;
and whatever the other clients do, it does not hear of it (`Dialogue`).  `client_dialogue` says so
of the packets that the client makes of its bytes.
-/

namespace SledServer

open SledServer.Core Flex

/-! ## Messages -/

/-- What has been sent to a client.  `bits` makes a `float` of a position. -/
def Server.messagesTo (bits : Option ℚ → UInt32) (conn : Conn) (v : Server) : List Message :=
  (v.sent.filter (·.1 = conn)).filterMap fun x => x.2.message? bits

/-- The answer to a command: one packet for most, none for some, and one or two for a profile that
is set. -/
structure Command.Answered (bits : Option ℚ → UInt32) (command : Command) (answer : List Message) :
    Prop where
  kind : ∀ m ∈ answer, m ∈ command.type.answers.filterMap (Reply.message? bits) ∨
    (command.type = .sendcurrentframe ∧ ∃ position, m = .data (-1) (-1) position)
  silent : command.type.Silent → answer = []
  once : ¬ command.type.Silent → command.type ≠ .profileSet → answer.length = 1
  set : command.type = .profileSet → answer.length = 1 ∨ answer.length = 2

/-- The answer to a text. -/
inductive Answers (bits : Option ℚ → UInt32) : Option Command → List Message → Prop
  | refused : Answers bits none [.error (bytes "err-syntaxerror")]
  | parsed {command : Command} {answer : List Message} (h : command.Answered bits answer) :
      Answers bits (some command) answer

/-- The event has nothing to do with the client. -/
def ServerEvent.Foreign (conn : Conn) : ServerEvent → Prop
  | .command c _ _ => c ≠ conn
  | .timeout _ _ => False
  | _ => True

/-- What a client hears in the course of these events.  The next frame of the stream has this
number. -/
inductive Dialogue (F : Numerals) (bits : Option ℚ → UInt32) (conn : Conn) :
    UInt32 → List ServerEvent → List Message → Prop
  | nil (frame : UInt32) : Dialogue F bits conn frame [] []
  | command {frame : UInt32} {text : List UInt8} {memory : CommandT} {answer ms : List Message}
      {es : List ServerEvent} (hanswer : Answers bits (parsed? F text memory) answer)
      (h : Dialogue F bits conn frame es ms) :
      Dialogue F bits conn frame (.command conn text memory :: es) (answer ++ ms)
  | streamed {frame : UInt32} {tcurrent now : ℚ} {time : UInt64} {ms : List Message}
      {es : List ServerEvent} (h : Dialogue F bits conn (frame + 1) es ms) :
      Dialogue F bits conn frame (.timeout tcurrent now :: es)
        (.data frame time (bits (some (fmod tcurrent 10 * 1000))) :: ms)
  | skipped {frame : UInt32} {tcurrent now : ℚ} {ms : List Message} {es : List ServerEvent}
      (h : Dialogue F bits conn (frame + 1) es ms) :
      Dialogue F bits conn frame (.timeout tcurrent now :: es) ms
  | foreign {frame : UInt32} {e : ServerEvent} {ms : List Message} {es : List ServerEvent}
      (he : e.Foreign conn) (h : Dialogue F bits conn frame es ms) :
      Dialogue F bits conn frame (e :: es) ms

/-! ## Answers -/

section Answers

variable {bits : Option ℚ → UInt32} {conn : Conn} {command : Command} {ctx : ServerCtx}
  {r : ServerCtx × List Reply}

lemma length_messages (bits : Option ℚ → UInt32) (replies : List Reply) :
    (replies.filterMap (Reply.message? bits)).length = packets replies := by
  induction replies with
  | nil => rfl
  | cons reply replies ih =>
    unfold packets at ih ⊢
    rw [List.countP_cons, List.filterMap_cons]
    cases reply <;> simp [Reply.message?, Reply.isPacket, ih]

/-- A profile is answered for twice at most. -/
lemma packets_cmdProfileSet_le (command : Command) (ctx : ServerCtx) :
    packets (cmdProfileSet command ctx).2 = 1 ∨ packets (cmdProfileSet command ctx).2 = 2 := by
  simp only [cmdProfileSet]
  split
  · exact .inl rfl
  · rw [packets_append, packets_profileSetTarget]
    split
    · exact .inr rfl
    · exact .inl rfl

lemma answered_of_handleCommand (h : handleCommand conn command ctx = .ok r) :
    command.Answered bits (r.2.filterMap (Reply.message? bits)) := by
  have hpackets := packets_handleCommand h
  constructor
  · intro m hm
    obtain ⟨reply, hreply, hm⟩ := List.mem_filterMap.mp hm
    rcases mem_answers h hreply with hanswer | ⟨-, rfl⟩ | ⟨hframe, -, rfl⟩
    · exact .inl (List.mem_filterMap.mpr ⟨reply, hanswer, hm⟩)
    · cases hm
    · cases hm
      exact .inr ⟨hframe, _, rfl⟩
  · intro hsilent
    have hreplies : r.2 = [] := by
      unfold handleCommand at h
      obtain htype | htype | htype := hsilent <;> rw [htype] at h <;> cases h <;> rfl
    rw [hreplies]
    rfl
  · intro hsilent hset
    rw [length_messages]
    exact hpackets.mpr ⟨hsilent, fun h => absurd h hset⟩
  · intro hset
    rw [length_messages]
    unfold handleCommand at h
    rw [hset] at h
    cases h
    exact packets_cmdProfileSet_le command ctx

lemma answers_of_commandHandler {F : Numerals} {text : List UInt8} {memory : CommandT}
    (h : commandHandler F conn text memory ctx = .ok r) :
    Answers bits (parsed? F text memory) (r.2.filterMap (Reply.message? bits)) := by
  rw [commandHandler_eq] at h
  cases hparsed : parsed? F text memory with
  | none =>
    rw [hparsed] at h
    cases h
    exact .refused
  | some command =>
    rw [hparsed] at h
    exact .parsed (answered_of_handleCommand h)

lemma valid_of_answers {parsed : Option Command} {answer : List Message}
    (h : Answers bits parsed answer) : ∀ m ∈ answer, m.Valid := by
  intro m hm
  cases h with
  | refused =>
    rw [List.mem_singleton] at hm
    subst hm
    exact ⟨by decide, by decide⟩
  | parsed h =>
    obtain hm | ⟨-, position, rfl⟩ := h.kind m hm
    · obtain ⟨reply, hreply, hm⟩ := List.mem_filterMap.mp hm
      exact (short_answers _ hreply hm).valid
    · trivial

lemma Dialogue.valid {F : Numerals} {frame : UInt32} {es : List ServerEvent} {ms : List Message}
    (h : Dialogue F bits conn frame es ms) : ∀ m ∈ ms, m.Valid := by
  induction h with
  | nil => simp
  | command hanswer h ih =>
    intro m hm
    obtain hm | hm := List.mem_append.mp hm
    · exact valid_of_answers hanswer m hm
    · exact ih m hm
  | streamed h ih =>
    intro m hm
    obtain rfl | hm := List.mem_cons.mp hm
    · trivial
    · exact ih m hm
  | skipped h ih => exact ih
  | foreign he h ih => exact ih

end Answers

/-! ## Events -/

section Step

variable {F : Numerals} {bits : Option ℚ → UInt32} {conn c : Conn} {v v' : Server} {e : ServerEvent}

lemma messagesTo_of_sent {xs : List (Conn × Reply)} (h : v'.sent = v.sent ++ xs) :
    v'.messagesTo bits conn = v.messagesTo bits conn ++
      (xs.filter (·.1 = conn)).filterMap fun x => x.2.message? bits := by
  simp [Server.messagesTo, h]

/-- Replies go to the connection that the command came from. -/
lemma messages_replied (c : Conn) (replies : List Reply) :
    (((replies.map fun reply => (c, reply)).filter (·.1 = conn)).filterMap fun x =>
      x.2.message? bits) = if c = conn then replies.filterMap (Reply.message? bits) else [] := by
  by_cases hc : c = conn
  · simp [hc, List.filter_map, Function.comp_def]
  · simp [hc, List.filter_map, Function.comp_def]

/-- A client that gets the stream gets one frame. -/
lemma messages_streamed {clients : List Conn} (h : clients.Nodup) (frame : Reply) :
    (((clients.map fun c => (c, frame)).filter (·.1 = conn)).filterMap fun x =>
      x.2.message? bits) = if conn ∈ clients then (frame.message? bits).toList else [] := by
  have hclients : clients.filter (· = conn) = if conn ∈ clients then [conn] else [] := by
    rw [List.filter_eq, h.count]
    split <;> rfl
  rw [List.filter_map, List.filterMap_map]
  simp only [Function.comp_def, hclients]
  split
  · cases frame.message? bits <;> rfl
  · rfl

lemma nodup_of_commandHandler {text : List UInt8} {memory : CommandT} {ctx : ServerCtx}
    {r : ServerCtx × List Reply} (hnodup : ctx.streamClients.Nodup)
    (h : commandHandler F conn text memory ctx = .ok r) : r.1.streamClients.Nodup := by
  rw [commandHandler_eq] at h
  cases hparsed : parsed? F text memory with
  | none =>
    rw [hparsed] at h
    cases h
    exact hnodup
  | some command =>
    rw [hparsed] at h
    rw [handleCommand_streamClients h]
    exact nodup_clients hnodup

/-- What a client hears of one event. -/
lemma dialogue_step (hnodup : v.ctx.streamClients.Nodup) (hheard : Heard F v e)
    (h : serverStep F v e = .ok v') : v'.ctx.streamClients.Nodup ∧
      ∃ ms, v'.messagesTo bits conn = v.messagesTo bits conn ++ ms ∧
        ∀ es ms', Dialogue F bits conn v'.frame es ms' →
          Dialogue F bits conn v.frame (e :: es) (ms ++ ms') := by
  cases e with
  | connect c =>
    simp only [serverStep] at h
    split at h <;> cases h <;>
      exact ⟨hnodup, [], (List.append_nil _).symm, fun es ms' hms => .foreign trivial hms⟩
  | command c text memory =>
    simp only [serverStep, if_pos hheard.1] at h
    obtain ⟨r, hcall, h⟩ := bind_eq_ok.mp h
    cases h
    refine ⟨nodup_of_commandHandler hnodup hcall, _, messagesTo_of_sent rfl, fun es ms' hms => ?_⟩
    rw [messages_replied]
    by_cases hc : c = conn
    · subst hc
      rw [if_pos rfl]
      exact .command (answers_of_commandHandler hcall) hms
    · rw [if_neg hc]
      exact .foreign hc hms
  | disconnect c =>
    simp only [serverStep] at h
    split at h <;> cases h
    · exact ⟨hnodup.filter _, [], (List.append_nil _).symm, fun es ms' hms => .foreign trivial hms⟩
    · exact ⟨hnodup, [], (List.append_nil _).symm, fun es ms' hms => .foreign trivial hms⟩
  | timeout tcurrent now =>
    cases h
    refine ⟨hnodup, _, messagesTo_of_sent rfl, fun es ms' hms => ?_⟩
    rw [messages_streamed hnodup]
    split
    · exact .streamed hms
    · exact .skipped hms
  | read o now r =>
    obtain ⟨s, -, h⟩ := bind_eq_ok.mp h
    cases h
    exact ⟨hnodup, [], (List.append_nil _).symm, fun es ms' hms => .foreign trivial hms⟩
  | watchdog now =>
    obtain ⟨s, -, h⟩ := bind_eq_ok.mp h
    cases h
    exact ⟨hnodup, [], (List.append_nil _).symm, fun es ms' hms => .foreign trivial hms⟩

lemma dialogue_run : ∀ {es : List ServerEvent} {v : Server}, v.ctx.streamClients.Nodup →
    Guarded (serverStep F) (Heard F) v es → run (serverStep F) v es = .ok v' →
    ∃ ms, v'.messagesTo bits conn = v.messagesTo bits conn ++ ms ∧
      Dialogue F bits conn v.frame es ms
  | [], _, _, _, h => by
    cases h
    exact ⟨[], (List.append_nil _).symm, .nil _⟩
  | e :: es, v, hnodup, hheard, h => by
    obtain ⟨u, hu, h⟩ := run_cons_ok.mp h
    obtain ⟨hnodup', ms, hms, hdialogue⟩ := dialogue_step hnodup hheard.1 hu
    obtain ⟨ms', hms', hrest⟩ := dialogue_run hnodup' (hheard.2 u hu) h
    exact ⟨ms ++ ms', by rw [hms', hms, List.append_assoc], hdialogue es ms' hrest⟩

end Step

/-- The client gets back the messages that have been sent, as long as there is memory to send
them. -/
lemma receiveAll_of_calls {calls : List SendCall} (hvalid : ∀ c ∈ calls, c.message.Valid)
    (hmemory : ∀ c ∈ calls, c.heap.isSome) :
    ∃ chunks packets, calls.mapM SendCall.bytes = some chunks ∧
      receiveAll chunks.flatten = some packets ∧
      List.Forall₂ Received.Means packets (calls.map SendCall.message) := by
  obtain ⟨chunks, hbytes, hflatten⟩ := bytes_of_calls hvalid
  have hsends : calls.filter SendCall.sends = calls := by
    refine List.filter_eq_self.mpr fun c hc => ?_
    unfold SendCall.sends
    split
    · rfl
    · exact hmemory c hc
  have hshort : ∀ p ∈ calls.map fun c => c.message.packet, p.body.length < 2 ^ 32 - 8 := by
    intro p hp
    obtain ⟨c, hc, rfl⟩ := List.mem_map.mp hp
    exact (hvalid c hc).short
  rw [hsends] at hflatten
  refine ⟨chunks, _, hbytes, by rw [hflatten, receiveAll_packets hshort], ?_⟩
  rw [List.map_map, List.forall₂_map_left_iff, List.forall₂_map_right_iff]
  exact List.forall₂_same.mpr fun c _ => means_received c.message

/-- **What a client hears.**  In every run of the server over the bytes of its clients, what the
server sends to a client are the answers to the commands in its packets, in order, and between them
frames of the stream, numbered by the expiries of the timer; and this is what the client reads from
the bytes that it gets, as long as the server finds memory for its packets. -/
theorem client_dialogue (F : Numerals) (fresh : Conn → ℕ → ℕ → UInt8) (bits : Option ℚ → UInt32)
    {mem : SledEnv} {now : ℚ} {o : CanOutcome} {v : Server}
    (hstart : serverStart mem now o = .ok v) (stack : ℕ → CommandT) {es : List WireEvent}
    (hfit : Lines.event.Accepts (Lines.Fits F) (.init stack) es) {w : Wire}
    (hrun : run (wireStep F fresh) (.init v stack) es = .ok w) (conn : Conn) :
    Dialogue F bits conn 0 (Lines.event.emits (.init stack) es)
      (w.process.server.messagesTo bits conn) ∧
    ∀ calls : List SendCall,
      calls.map SendCall.message = w.process.server.messagesTo bits conn →
      (∀ c ∈ calls, c.heap.isSome) →
      ∃ chunks packets, calls.mapM SendCall.bytes = some chunks ∧
        receiveAll chunks.flatten = some packets ∧
        List.Forall₂ Received.Means packets (w.process.server.messagesTo bits conn) := by
  have hfollows := follows_init hstart stack
  obtain ⟨v', hv', hfollows'⟩ := (hrun ▸ Matches.run follows_steps hfollows hfit).exists_right
  have hheard := Matches.guarded (@follows_steps F fresh) (fun _ _ _ _ => heard_step) hfollows hfit
  obtain ⟨s, -, rfl⟩ := serverStart_ok hstart
  obtain ⟨ms, (hms : v'.messagesTo bits conn = ms), hdialogue⟩ :=
    dialogue_run List.nodup_nil hheard hv'
  rw [hfollows'.server, hms]
  refine ⟨hdialogue, fun calls hcalls hmemory => ?_⟩
  rw [← hcalls]
  refine receiveAll_of_calls (fun c hc => ?_) hmemory
  exact hdialogue.valid _ (hcalls ▸ List.mem_map_of_mem hc)

/-- The first client hears that it gets the stream, and two frames of it; of the second client it
hears nothing. -/
theorem client_dialogue_two_clients : ∃ v w, serverStart someMemory 0 ⟨.success, true⟩ = .ok v ∧
    run (wireStep .decimal fun _ _ _ => 0) (.init v fun _ => .zero) twoClients = .ok w ∧
    w.process.server.messagesTo (fun _ => 0) 0 =
      [.command (bytes "ok-streamframes"), .data 0 3000000 0, .data 1 4000000 0] ∧
    Dialogue .decimal (fun _ => 0) 0 0 (Lines.event.emits (.init fun _ => .zero) twoClients)
      (w.process.server.messagesTo (fun _ => 0) 0) ∧
    ∀ calls : List SendCall,
      calls.map SendCall.message = w.process.server.messagesTo (fun _ => 0) 0 →
      (∀ c ∈ calls, c.heap.isSome) →
      ∃ chunks packets, calls.mapM SendCall.bytes = some chunks ∧
        receiveAll chunks.flatten = some packets ∧
        List.Forall₂ Received.Means packets (w.process.server.messagesTo (fun _ => 0) 0) := by
  obtain ⟨v, hv, h⟩ := exists_of_okAnd (x := serverStart someMemory 0 ⟨.success, true⟩)
    (p := fun v => okAnd (fun w : Wire => decide (w.process.server.messagesTo (fun _ => 0) 0 =
        [.command (bytes "ok-streamframes"), .data 0 3000000 0, .data 1 4000000 0]))
      (run (wireStep .decimal fun _ _ _ => 0) (.init v fun _ => .zero) twoClients))
    (by decide +kernel)
  obtain ⟨w, hw, hheard⟩ := exists_of_okAnd h
  exact ⟨v, w, hv, hw, of_decide_eq_true hheard, client_dialogue .decimal (fun _ _ _ => 0)
    (fun _ => 0) hv (fun _ => .zero) (by decide +kernel) hw 0⟩

end SledServer
