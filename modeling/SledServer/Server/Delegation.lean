import SledServer.Core.Transducer
import SledServer.Drive.Vocabulary
import SledServer.Server.Mapping
import SledServer.Server.Service

/-!
# From the clients to the drive

The server touches the sled in three ways only: it calls the functions of the library, it lets the
sled read the bus, and it lets it watch the network.  So a run of the server is a run of the sled
(`server_calls_sled`), and what holds of all runs of the sled holds in the server.

What the drive is told to do then comes from the clients: from commands that have been answered with
an acknowledgement, each of them once and in their order (`clients_instruct_drive`).
-/

namespace SledServer

open SledServer.Core Flex

/-! ## The calls of a command -/

/-- The calls that translating an id makes. -/
def tlateCalls (profile : ℤ) (ctx : ServerCtx) : List SledCall :=
  match ctx.profileTlate profile with
  | some _ => []
  | none => [.profileCreate]

/-- The calls of `profileSetNext`. -/
def profileSetNextCalls (command : Command) (profileId : ℤ) (ctx : ServerCtx) : List SledCall :=
  if command.nextProfile ≥ 0 then
    let nextProfileId := (tlateProfileId command.nextProfile ctx).1
    tlateCalls command.nextProfile ctx ++
      if nextProfileId < 0 then []
      else [.profileSetNext profileId nextProfileId command.nextDelay command.blendType]
  else [.profileSetNext profileId (-1) 0 .blnNone]

/-- The calls of `profileSetTarget`. -/
def profileSetTargetCalls (command : Command) (profileId : ℤ) (ctx : ServerCtx) : List SledCall :=
  let r := sledProfileSetTarget profileId command.positionType command.position command.time
    ctx.sled
  .profileSetTarget profileId command.positionType command.position command.time ::
    if r.1 = -1 then []
    else
      let r' := sledProfileSetTable profileId command.table r.2
      .profileSetTable profileId command.table ::
        if r'.1 = -1 then [] else profileSetNextCalls command profileId (ctx.withSled r'.2)

/-- The calls of `cmdProfileSet`. -/
def cmdProfileSetCalls (command : Command) (ctx : ServerCtx) : List SledCall :=
  let r := tlateProfileId command.profile ctx
  tlateCalls command.profile ctx ++
    if r.1 < 0 then [] else profileSetTargetCalls command r.1 r.2

/-- The calls of `handleCommand`, in order. -/
def handlerCalls (command : Command) (ctx : ServerCtx) : List SledCall :=
  match command.type with
  | .profileExecute => tlateCalls command.profile ctx ++
      [.profileExecute (tlateProfileId command.profile ctx).1]
  | .profileSet => cmdProfileSetCalls command ctx
  | .sinusoid => [if command.boolean then .sinusoidStart command.amplitude command.period
      else .sinusoidStop]
  | .rsinusoid => [if command.boolean then .rsinusoidStart command.amplitude command.period
      else .rsinusoidStop]
  | .lights => [.lightSetState command.boolean]
  | _ => []

/-- The run of the sled over some calls. -/
def callRun (s : Sled) (cs : List SledCall) : Except Halt Sled := run sledStep s (cs.map .call)

section Calls

variable {command : Command} {conn : Conn} {ctx : ServerCtx}

@[simp] lemma callRun_nil (s : Sled) : callRun s [] = .ok s := rfl

lemma callRun_cons (s : Sled) (c : SledCall) (cs : List SledCall) :
    callRun s (c :: cs) = sledCall s c >>= fun r => callRun r.2 cs := by
  rw [callRun, List.map_cons, run_cons]
  show (sledCall s c >>= fun r => .ok r.2) >>= _ = _
  cases sledCall s c with
  | ok r => rfl
  | error e => rfl

lemma callRun_append (s : Sled) (cs cs' : List SledCall) :
    callRun s (cs ++ cs') = callRun s cs >>= fun t => callRun t cs' := by
  rw [callRun, List.map_append, run_append]
  rfl

lemma callRun_tlate (profile : ℤ) (ctx : ServerCtx) :
    callRun ctx.sled (tlateCalls profile ctx) = .ok (tlateProfileId profile ctx).2.sled := by
  cases hprofile : ctx.profileTlate profile with
  | some id => simp [tlateCalls, tlateProfileId, hprofile]
  | none =>
    simp only [tlateCalls, tlateProfileId, hprofile, callRun_cons]
    rfl

lemma callRun_profileSetNext (command : Command) (id : ℤ) (ctx : ServerCtx) :
    callRun ctx.sled (profileSetNextCalls command id ctx) =
      .ok (profileSetNext command id ctx).1.sled := by
  unfold profileSetNextCalls profileSetNext
  split
  · dsimp only
    rw [callRun_append, callRun_tlate, ok_bind]
    split
    · rfl
    · rw [callRun_cons]
      rfl
  · rw [callRun_cons]
    rfl

lemma callRun_profileSetTarget (command : Command) (id : ℤ) (ctx : ServerCtx) :
    callRun ctx.sled (profileSetTargetCalls command id ctx) =
      .ok (profileSetTarget command id ctx).1.sled := by
  simp only [profileSetTargetCalls, profileSetTarget, callRun_cons, sledCall, ok_bind]
  split
  · rfl
  · rw [callRun_cons, sledCall, ok_bind]
    split
    · rfl
    · exact callRun_profileSetNext command id (ctx.withSled _)

lemma callRun_cmdProfileSet (command : Command) (ctx : ServerCtx) :
    callRun ctx.sled (cmdProfileSetCalls command ctx) = .ok (cmdProfileSet command ctx).1.sled := by
  simp only [cmdProfileSetCalls, cmdProfileSet, callRun_append, callRun_tlate, ok_bind]
  split
  · rfl
  · exact callRun_profileSetTarget command _ _

/-- A call that is answered with `replyTo`. -/
lemma callRun_replyTo {s : Sled} {c : SledCall} {x : Except Halt (ℤ × Sled)}
    (hc : sledCall s c = x) (ok err : String) :
    callRun s [c] = (x >>= fun r => .ok (replyTo ctx ok err r)).map (·.1.sled) := by
  rw [callRun_cons, hc]
  cases x with
  | ok r => rfl
  | error e => rfl

/-- The handler does to the sled what its calls do. -/
lemma callRun_handler (conn : Conn) (command : Command) (ctx : ServerCtx) :
    callRun ctx.sled (handlerCalls command ctx) =
      (handleCommand conn command ctx).map (·.1.sled) := by
  cases htype : command.type <;> simp only [handlerCalls, handleCommand, htype]
  case profileExecute =>
    rw [callRun_append, callRun_tlate, ok_bind]
    exact callRun_replyTo rfl _ _
  case profileSet => exact callRun_cmdProfileSet command ctx
  case sinusoid | rsinusoid => split <;> exact callRun_replyTo rfl _ _
  case lights => exact callRun_replyTo rfl _ _
  all_goals rfl

end Calls

/-! ## The server as a client of the library -/

/-- What an event of the server is to the sled. -/
def ServerEvent.sledEvents (F : Numerals) (v : Server) : ServerEvent → List SledEvent
  | .command conn text memory =>
    if conn ∈ v.connected then
      match parsed? F text memory with
      | some parsed => (handlerCalls parsed v.ctx).map .call
      | none => []
    else []
  | .read o now r => [.read o now r]
  | .watchdog now => [.watchdog now]
  | _ => []

/-- The server with its state as a translation of its events. -/
def library (F : Numerals) : Transducer Server ServerEvent SledEvent := fun v e =>
  (match serverStep F v e with
    | .ok v' => v'
    | .error _ => v, e.sledEvents F v)

lemma library_snd (F : Numerals) (v : Server) (e : ServerEvent) :
    (library F v e).2 = e.sledEvents F v := by rw [library]

/-- What reaches the sled without a call. -/
def SledEvent.uncalled? : SledEvent → Option SledEvent
  | .call _ => none
  | e => some e

/-- The events of the server that it passes on to the sled. -/
def ServerEvent.passed? : ServerEvent → Option SledEvent
  | .read o now r => some (.read o now r)
  | .watchdog now => some (.watchdog now)
  | _ => none

section Library

variable {F : Numerals} {v v' : Server} {e : ServerEvent} {es : List ServerEvent}

/-- A step of the server does to the sled what its events for the sled do. -/
lemma map_serverStep (F : Numerals) (v : Server) (e : ServerEvent) :
    (serverStep F v e).map (·.ctx.sled) = run sledStep v.ctx.sled (e.sledEvents F v) := by
  cases e with
  | connect conn =>
    simp only [serverStep]
    split <;> rfl
  | command conn text memory =>
    simp only [serverStep, ServerEvent.sledEvents]
    split
    · rw [commandHandler_eq]
      cases hparsed : parsed? F text memory with
      | none => rfl
      | some command =>
        refine Eq.trans ?_ (callRun_handler conn command v.ctx).symm
        simp only [rtc3dCommandHandler]
        cases handleCommand conn command v.ctx <;> rfl
    · rfl
  | disconnect conn =>
    simp only [serverStep]
    split <;> rfl
  | timeout tcurrent now => rfl
  | read o now r =>
    simp only [serverStep, ServerEvent.sledEvents, run_cons, run_nil]
    cases sledStep v.ctx.sled (.read o now r) <;> rfl
  | watchdog now =>
    simp only [serverStep, ServerEvent.sledEvents, run_cons, run_nil]
    cases sledStep v.ctx.sled (.watchdog now) <;> rfl

/-- The state of the translation is that of the server, whose sled is the sled. -/
def Hosts (v u : Server) (s : Sled) : Prop := u = v ∧ u.ctx.sled = s

lemma Hosts.refl (v : Server) : Hosts v v v.ctx.sled := ⟨rfl, rfl⟩

lemma library_matches {l v : Server} {s : Sled} (h : Hosts l v s) (e : ServerEvent) :
    Matches id (Hosts (library F l e).1) (serverStep F v e) (run sledStep s (library F l e).2) := by
  obtain ⟨rfl, rfl⟩ := h
  rw [library_snd, ← map_serverStep]
  cases hstep : serverStep F v e with
  | ok v' => exact .ok ⟨by simp only [library, hstep], rfl⟩
  | error d => exact .error d

lemma passed_sledEvents (e : ServerEvent) :
    (e.sledEvents F v).filterMap SledEvent.uncalled? = e.passed?.toList := by
  cases e with
  | command conn text memory =>
    simp only [ServerEvent.sledEvents]
    split
    · split
      · rw [List.filterMap_map]
        exact List.filterMap_eq_nil_iff.mpr fun _ _ => rfl
      · rfl
    · rfl
  | _ => rfl

lemma passed_library (v : Server) (e : ServerEvent) :
    (library F v e).2.filterMap SledEvent.uncalled? = e.passed?.toList := by
  rw [library_snd, passed_sledEvents]

/-- A run of the server does to the sled what its events for the sled do. -/
lemma map_run_serverStep (F : Numerals) (v : Server) (es : List ServerEvent) :
    (run (serverStep F) v es).map (·.ctx.sled) =
      run sledStep v.ctx.sled ((library F).emits v es) := by
  have hstep : ∀ l v s e, Hosts l v s → True → Matches id (Hosts (library F l e).1)
      (serverStep F v e) (run sledStep s (library F l e).2) :=
    fun _ _ _ e h _ => library_matches h e
  have hrun := Matches.run hstep (Hosts.refl v)
    ((library F).accepts_of_forall (fun _ _ => trivial) v es)
  rw [hrun.map_eq fun v' s h => h.2]
  cases run sledStep v.ctx.sled ((library F).emits v es) <;> rfl

/-- **The server is a client of the library.**  Whatever happens, the sled in the server is where
the calls of the library take it, together with the reads and the watchdog, which the server passes
on as they come. -/
theorem server_calls_sled (F : Numerals) (v : Server) (es : List ServerEvent) :
    (run (serverStep F) v es).map (·.ctx.sled) =
        run sledStep v.ctx.sled ((library F).emits v es) ∧
      ((library F).emits v es).filterMap SledEvent.uncalled? =
        es.filterMap ServerEvent.passed? :=
  ⟨map_run_serverStep F v es, (library F).filterMap_emits passed_library v es⟩

end Library

/-! ## Instructions -/

/-- What a command asks the drive for, where `ctx` is the context after it. -/
def Command.instruction? (command : Command) (ctx : ServerCtx) : Option Instruction :=
  match command.type with
  | .profileExecute => ((ctx.profileTlate command.profile).bind profileIndex?).map .motion
  | .sinusoid => if command.boolean then some (.motion ⟨0, by decide⟩) else none
  | .rsinusoid => if command.boolean then some (.motion ⟨1, by decide⟩) else none
  | .lights => some (.light command.boolean)
  | _ => none

/-- The reply is an acknowledgement. -/
def Reply.acknowledges : Reply → Bool
  | .command _ => true
  | _ => false

/-- What a command has been granted, given its outcome. -/
def Command.granted? (command : Command) : Except Halt (ServerCtx × List Reply) → Option Instruction
  | .ok r => if r.2.any Reply.acknowledges then command.instruction? r.1 else none
  | .error _ => none

/-- What the drive is told to do because of an event. -/
def ServerEvent.instruction? (F : Numerals) (v : Server) : ServerEvent → Option Instruction
  | .command conn text memory =>
    if conn ∈ v.connected then
      (parsed? F text memory).bind fun parsed => parsed.granted? (handleCommand conn parsed v.ctx)
    else none
  | _ => none

/-- What the clients have been granted in the course of a run, in order. -/
def granted (F : Numerals) (v : Server) (es : List ServerEvent) : List Instruction :=
  observed (serverStep F) (fun v e => e.instruction? F v) v es

section Granted

variable {command : Command} {ctx : ServerCtx} {s : Sled} {c : SledCall}

lemma instructed_of_silent {cs : List SledCall} (h : ∀ c ∈ cs, ∀ e, c.instruction? e = none) :
    ∀ s, instructed s (cs.map .call) = [] := by
  induction cs with
  | nil => exact fun _ => rfl
  | cons c cs ih =>
    intro s
    have hc : SledEvent.instruction? s (.call c) = none := by
      simp only [SledEvent.instruction?, SledCall.accepted?, h c List.mem_cons_self]
      split <;> rfl
    rw [instructed, List.map_cons, observed, hc]
    cases sledStep s (.call c) with
    | ok t => exact ih (fun d hd => h d (List.mem_cons_of_mem _ hd)) t
    | error d => rfl

lemma execute_result {id : ℤ} {r : ℤ × Sled} (h : sledProfileExecute id s = .ok r) :
    r.1 = 0 ∨ r.1 = -1 := by
  obtain rfl | ⟨i, is, -, -, -, -, rfl⟩ := sledProfileExecute_ok h
  · exact .inr rfl
  · exact .inl rfl

/-- A call with an instruction is accepted or refused. -/
lemma result_of_instruction {i : Instruction} {r : ℤ × Sled} (hi : c.instruction? s.env = some i)
    (h : sledCall s c = .ok r) : r.1 = 0 ∨ r.1 = -1 := by
  cases c with
  | profileExecute profile => exact execute_result h
  | sinusoidStart amplitude period => exact execute_result h
  | rsinusoidStart amplitude period =>
    obtain ⟨_, _, h⟩ := bind_eq_ok.mp h
    obtain ⟨_, _, h⟩ := bind_eq_ok.mp h
    obtain ⟨_, _, h⟩ := bind_eq_ok.mp h
    obtain ⟨_, _, h⟩ := bind_eq_ok.mp h
    exact execute_result h
  | lightSetState state =>
    simp only [sledCall, sledLightSetState] at h
    split at h
    · cases h
      exact .inr rfl
    · obtain ⟨t, -, h⟩ := bind_eq_ok.mp h
      cases h
      exact .inl rfl
  | _ => cases hi

/-- A call that is answered with `replyTo`. -/
lemma instructed_replyTo {x : Except Halt (ℤ × Sled)} (hc : sledCall s c = x) (ok err : String)
    (hask : ∀ s', command.instruction? (ctx.withSled s') = c.instruction? s.env) :
    instructed s [.call c] =
      (command.granted? (x >>= fun r => .ok (replyTo ctx ok err r))).toList := by
  rw [instructed, observed_singleton]
  congr 1
  subst hc
  cases hr : sledCall s c with
  | error d => simp only [SledEvent.instruction?, hr, error_bind, Command.granted?]
  | ok r =>
    simp only [SledEvent.instruction?, hr, ok_bind, SledCall.accepted?, Command.granted?, replyTo,
      hask r.2]
    cases hi : c.instruction? s.env with
    | none => simp
    | some i =>
      obtain hresult | hresult := result_of_instruction hi hr
      · simp [hresult, Reply.acknowledges]
      · simp [hresult, Reply.acknowledges]

/-- A command that asks for nothing, and whose calls do not either. -/
lemma instructed_of_quiet {x : Except Halt (ServerCtx × List Reply)} {cs : List SledCall}
    (hcs : ∀ c ∈ cs, ∀ e, c.instruction? e = none) (hask : ∀ ctx, command.instruction? ctx = none) :
    instructed s (cs.map .call) = (command.granted? x).toList := by
  rw [instructed_of_silent hcs]
  cases x with
  | error d => rfl
  | ok r => simp [Command.granted?, hask]

lemma silent_tlate {profile : ℤ} : ∀ c ∈ tlateCalls profile ctx, ∀ e, c.instruction? e = none := by
  intro c hc e
  unfold tlateCalls at hc
  split at hc
  · cases hc
  · rw [List.mem_singleton.mp hc]
    rfl

lemma silent_profileSetNext {id : ℤ} :
    ∀ c ∈ profileSetNextCalls command id ctx, ∀ e, c.instruction? e = none := by
  intro c hc e
  unfold profileSetNextCalls at hc
  split at hc
  · rcases List.mem_append.mp hc with hc | hc
    · exact silent_tlate c hc e
    · split at hc
      · cases hc
      · rw [List.mem_singleton.mp hc]
        rfl
  · rw [List.mem_singleton.mp hc]
    rfl

lemma silent_profileSetTarget {id : ℤ} :
    ∀ c ∈ profileSetTargetCalls command id ctx, ∀ e, c.instruction? e = none := by
  intro c hc e
  unfold profileSetTargetCalls at hc
  rcases List.mem_cons.mp hc with rfl | hc
  · rfl
  · split at hc
    · cases hc
    · rcases List.mem_cons.mp hc with rfl | hc
      · rfl
      · split at hc
        · cases hc
        · exact silent_profileSetNext c hc e

lemma silent_cmdProfileSet :
    ∀ c ∈ cmdProfileSetCalls command ctx, ∀ e, c.instruction? e = none := by
  intro c hc e
  unfold cmdProfileSetCalls at hc
  rcases List.mem_append.mp hc with hc | hc
  · exact silent_tlate c hc e
  · split at hc
    · cases hc
    · exact silent_profileSetTarget c hc e

/-- The calls of a command are accepted for what the command is granted. -/
lemma instructed_handler (h : ctx.Mapped) (conn : Conn) (command : Command) :
    instructed ctx.sled ((handlerCalls command ctx).map .call) =
      (command.granted? (handleCommand conn command ctx)).toList := by
  have hreg := h.sound.registered
  cases htype : command.type <;> simp only [handlerCalls, handleCommand, htype]
  case profileExecute =>
    have htlate := (tlateProfileId_mapped h command.profile).2.2
    rw [List.map_append, instructed, observed_append, ← callRun, callRun_tlate]
    rw [← instructed, instructed_of_silent silent_tlate, List.nil_append]
    refine instructed_replyTo rfl _ _ fun s' => ?_
    simp [Command.instruction?, htype, ServerCtx.withSled, htlate, SledCall.instruction?]
  case profileSet =>
    refine instructed_of_quiet silent_cmdProfileSet fun _ => ?_
    rw [Command.instruction?, htype]
  case sinusoid =>
    split
    next hon =>
      refine instructed_replyTo rfl _ _ fun s' => ?_
      rw [SledCall.instruction?, hreg.there, Command.instruction?, htype]
      exact if_pos hon
    next hoff =>
      refine instructed_replyTo rfl _ _ fun s' => ?_
      rw [Command.instruction?, htype]
      exact if_neg hoff
  case rsinusoid =>
    split
    next hon =>
      refine instructed_replyTo rfl _ _ fun s' => ?_
      rw [SledCall.instruction?, hreg.rthere, Command.instruction?, htype]
      exact if_pos hon
    next hoff =>
      refine instructed_replyTo rfl _ _ fun s' => ?_
      rw [Command.instruction?, htype]
      exact if_neg hoff
  case lights =>
    refine instructed_replyTo rfl _ _ fun s' => ?_
    rw [Command.instruction?, htype]
    rfl
  all_goals
    refine instructed_of_quiet (List.forall_mem_nil _) fun _ => ?_
    rw [Command.instruction?, htype]

/-- The events for the sled are accepted for what the event is granted. -/
lemma instructed_sledEvents {F : Numerals} {v : Server} (h : v.ctx.Mapped) (e : ServerEvent) :
    instructed v.ctx.sled (e.sledEvents F v) = (e.instruction? F v).toList := by
  cases e with
  | command conn text memory =>
    simp only [ServerEvent.sledEvents, ServerEvent.instruction?]
    split
    · cases parsed? F text memory with
      | none => rfl
      | some command => exact instructed_handler h conn command
    · rfl
  | read o now r =>
    rw [ServerEvent.sledEvents, instructed, observed_singleton]
    rfl
  | watchdog now =>
    rw [ServerEvent.sledEvents, instructed, observed_singleton]
    rfl
  | _ => rfl

/-- What the clients are granted is what the sled is instructed. -/
lemma instructed_library {F : Numerals} {v : Server} (h : v.ctx.Mapped) (es : List ServerEvent) :
    instructed v.ctx.sled ((library F).emits v es) = granted F v es := by
  have hstep : ∀ l v s e, (Hosts l v s ∧ v.ctx.Mapped) → True →
      Matches id (fun v' s' => Hosts (library F l e).1 v' s' ∧ v'.ctx.Mapped) (serverStep F v e)
        (run sledStep s (library F l e).2) := by
    rintro l v s e ⟨hhosts, hmapped⟩ -
    have hmatch := library_matches (F := F) hhosts e
    cases hv : serverStep F v e with
    | ok v' =>
      rw [hv] at hmatch
      obtain ⟨s', hs', hhosts'⟩ := hmatch.exists_right
      rw [hs']
      exact .ok ⟨hhosts', (mapped_step hmapped hv).1⟩
    | error d =>
      rw [hv] at hmatch
      generalize run sledStep s (library F l e).2 = y at hmatch
      cases hmatch with
      | error d => exact .error d
  have hobs : ∀ l v s e, (Hosts l v s ∧ v.ctx.Mapped) → True →
      observed sledStep (fun s e => e.instruction? s) s (library F l e).2 =
        (e.instruction? F v).toList := by
    rintro l v s e ⟨⟨rfl, rfl⟩, hmapped⟩ -
    rw [library_snd]
    exact instructed_sledEvents hmapped e
  exact Matches.observed hstep hobs ⟨.refl v, h⟩
    ((library F).accepts_of_forall (fun _ _ => trivial) v es)

end Granted

/-- **The drive serves the clients.**  In every run from the start of the server, the instructions
that are queued for the drive are those that clients have been granted: each acknowledged command is
queued once, in the order of the acknowledgements, and nothing else is.  What the drive is told of
them keeps the order, and repeats nothing. -/
theorem clients_instruct_drive {F : Numerals} {mem : SledEnv} {now : ℚ} {o : CanOutcome}
    {es : List ServerEvent} {v₀ v : Server} (hstart : serverStart mem now o = .ok v₀)
    (hrun : run (serverStep F) v₀ es = .ok v) :
    v.ctx.sled.queuedRequests.filterMap (fun r => r.frame.instruction?) = granted F v₀ es ∧
      (v.ctx.sled.intf.written.filterMap CanMessage.instruction?).Sublist (granted F v₀ es) := by
  have hmapped := mapped_serverStart hstart
  have hsled := map_run_serverStep F v₀ es
  rw [hrun] at hsled
  obtain ⟨s, hcreate, rfl⟩ := serverStart_ok hstart
  have hspeaks := speaks_run hcreate hsled.symm
  rw [instructed_library hmapped] at hspeaks
  exact ⟨hspeaks.instructions, hspeaks.told⟩

/-! ### A client switches the light on -/

lemma parsed?_lightsOn : parsed? .decimal (bytes "Lights On") .zero =
    some ((Sentence.lights true).assign .decimal .zero).toCommand := by
  have hprinted : Printed .decimal (Sentence.lights true).tokens
      (bytes "Lights" ++ [0x20] ++ bytes "On") :=
    .cons (.keyword (k := ("lights", word .lights)) (by decide) (by decide)) (by decide)
      (.one (.keyword (k := ("on", word .on)) (by decide) (by decide)))
  exact parsed?_of_sentence (yylex_printed hprinted (by decide)) .zero

/-- The network comes up, a client connects and switches the light on. -/
def lit : List ServerEvent :=
  [.read ⟨.success, true⟩ 0 (.message (nmtReport 0x7F) 0), .connect 0,
    .command 0 (bytes "Lights On") .zero]

theorem clients_instruct_drive_lit :
    ∃ v₀ v, serverStart someMemory 0 ⟨.success, true⟩ = .ok v₀ ∧
      run (serverStep .decimal) v₀ lit = .ok v ∧ granted .decimal v₀ lit = [.light true] ∧
      v.ctx.sled.queuedRequests.filterMap (fun r => r.frame.instruction?) =
        granted .decimal v₀ lit ∧
      (v.ctx.sled.intf.written.filterMap CanMessage.instruction?).Sublist
        (granted .decimal v₀ lit) := by
  obtain ⟨v₁, hv₁, hp⟩ := exists_of_okAnd
    (x := serverStart someMemory 0 ⟨.success, true⟩ >>= fun v =>
      serverStep .decimal v (.read ⟨.success, true⟩ 0 (.message (nmtReport 0x7F) 0)))
    (p := fun v : Server => v.connected == [] && v.ctx.sled.mchSdo.state != .disabled)
    (by decide +kernel)
  obtain ⟨v₀, hv₀, hread⟩ := bind_eq_ok.mp hv₁
  simp only [Bool.and_eq_true, beq_iff_eq, bne_iff_ne, ne_eq] at hp
  obtain ⟨hnobody, hon⟩ := hp
  have hconnect : serverStep .decimal v₁ (.connect 0) = .ok { v₁ with connected := [0] } := by
    simp [serverStep, hnobody]
  have hlight : handleCommand 0 ((Sentence.lights true).assign .decimal .zero).toCommand v₁.ctx =
      .ok (v₁.ctx.withSled (v₁.ctx.sled.push (lightWrite true)), [.command "ok-light"]) := by
    show (sledLightSetState true v₁.ctx.sled >>= fun r => .ok (replyTo v₁.ctx "ok-light" _ r)) = _
    rw [sledLightSetState, if_neg hon, mchSdoQueueWrite_eq]
    rfl
  have hcommand := serverStep_command (v := { v₁ with connected := [0] }) List.mem_cons_self
    parsed?_lightsOn hlight
  have hrun := run_cons_ok.mpr ⟨_, hread, run_cons_ok.mpr ⟨_, hconnect,
    run_cons_ok.mpr ⟨_, hcommand, run_nil⟩⟩⟩
  refine ⟨v₀, _, hv₀, hrun, ?_, clients_instruct_drive hv₀ hrun⟩
  have hgranted : ServerEvent.instruction? .decimal { v₁ with connected := [0] }
      (.command 0 (bytes "Lights On") .zero) = some (.light true) := by
    rw [ServerEvent.instruction?, if_pos List.mem_cons_self, parsed?_lightsOn, Option.bind_some,
      hlight]
    rfl
  simp only [granted, lit, observed, hread, hconnect, hcommand, hgranted]
  rfl

end SledServer
