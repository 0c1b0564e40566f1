import SledServer.Server.Service

/-!
# The positions that clients are told

A data frame should carry the position of the last TPDO2, in millimetres.  An answer to
`SendCurrentFrame` does so once there has been a TPDO2; before, it carries whatever is in the memory
that `sled_create` was given, and while the network is not operational it is an error.  The frames
of the stream do not carry a position at all: `SAWTOOTH` has been left defined, so they carry the
clock modulo ten seconds (`positions_right_iff`).
-/

namespace SledServer

open SledServer.Core Flex

/-! ## Commands as calls -/

/-- Nothing but calls of the library changes the sled in the course of a command. -/
lemma KeptByCalls.handleCommand {I : Sled → Prop} (h : KeptByCalls I) {conn : Conn}
    {command : Command} {ctx : ServerCtx} {r : ServerCtx × List Reply} (hs : I ctx.sled)
    (hr : handleCommand conn command ctx = .ok r) : I r.1.sled := by
  have htlate : ∀ (profile : ℤ) (ctx : ServerCtx), I ctx.sled →
      I (tlateProfileId profile ctx).2.sled := by
    intro profile ctx hs
    unfold tlateProfileId
    split
    · exact hs
    · exact h.create hs
  have hnext : ∀ (id : ℤ) (ctx : ServerCtx), I ctx.sled →
      I (profileSetNext command id ctx).1.sled := by
    intro id ctx hs
    unfold profileSetNext
    split
    · dsimp only
      split
      · exact htlate _ _ hs
      · exact h.setNext (htlate _ _ hs) _ _ _ _
    · exact h.setNext hs _ _ _ _
  have hset : I (cmdProfileSet command ctx).1.sled := by
    simp only [cmdProfileSet, profileSetTarget]
    split
    · exact htlate _ _ hs
    · split
      · exact h.setTarget (htlate _ _ hs) _ _ _ _
      · split
        · exact h.setTable (h.setTarget (htlate _ _ hs) _ _ _ _) _ _
        · exact hnext _ _ (h.setTable (h.setTarget (htlate _ _ hs) _ _ _ _) _ _)
  have hcall : ∀ {ctx : ServerCtx} {x : Except Halt (ℤ × Sled)} {ok err : String} (c : SledCall),
      I ctx.sled → sledCall ctx.sled c = x →
      (x >>= fun a => .ok (replyTo ctx ok err a)) = .ok r → I r.1.sled := by
    rintro ctx x ok err c hs rfl hx
    obtain ⟨a, ha, hx⟩ := bind_eq_ok.mp hx
    cases hx
    exact h.call hs ha
  unfold SledServer.handleCommand at hr
  cases htype : command.type <;> rw [htype] at hr <;> dsimp only at hr
  case profileExecute => exact hcall (.profileExecute _) (htlate command.profile ctx hs) rfl hr
  case profileSet =>
    cases hr
    exact hset
  case sinusoid =>
    split at hr
    · exact hcall (.sinusoidStart command.amplitude command.period) hs rfl hr
    · exact hcall .sinusoidStop hs rfl hr
  case rsinusoid =>
    split at hr
    · exact hcall (.rsinusoidStart command.amplitude command.period) hs rfl hr
    · exact hcall .rsinusoidStop hs rfl hr
  case lights => exact hcall (.lightSetState command.boolean) hs rfl hr
  all_goals
    cases hr
    exact hs

/-! ## Right positions -/

/-- The position of a data frame that is sent at an event is right: that of the last TPDO2, if the
network is operational, and otherwise none, in a frame of the stream. -/
def Right (v : Server) (e : ServerEvent) (position : Option ℚ) : Prop :=
  if v.ctx.sled.env.mchNet = .operational then ∃ p, v.tpdo2 = some p ∧ position = some (p * 1000)
  else (∃ tcurrent now, e = .timeout tcurrent now) ∧ position = none

/-- All data frames that a step sends are right. -/
def SendsRight (v : Server) (e : ServerEvent) (v' : Server) : Prop :=
  ∀ conn frame time position,
    (conn, .data frame time position) ∈ v'.sent.drop v.sent.length → Right v e position

/-- `SendCurrentFrame` is answered with an error, and with nothing else, while the network is not
operational. -/
def Refuses (F : Numerals) (v : Server) (e : ServerEvent) (v' : Server) : Prop :=
  ∀ conn text memory command, e = .command conn text memory → conn ∈ v.connected →
    parsed? F text memory = some command → command.type = .sendcurrentframe →
      v.ctx.sled.env.mchNet ≠ .operational →
        v'.sent.drop v.sent.length = [(conn, .error "err-sendcurrentframe")]

/-- The frame has been asked for after the first TPDO2, and there is nobody to get the stream, or
the clock happens to show the position. -/
def Measured (F : Numerals) (v : Server) : ServerEvent → Prop
  | .command conn text memory => conn ∈ v.connected →
      (∃ command, parsed? F text memory = some command ∧ command.type = .sendcurrentframe) →
      v.ctx.sled.env.mchNet = .operational → v.tpdo2 ≠ none
  | .timeout tcurrent _ => v.ctx.streamClients ≠ [] →
      v.ctx.sled.env.mchNet = .operational ∧ v.tpdo2 = some (fmod tcurrent 10)
  | _ => True

/-! ## The cached position -/

/-- The sled holds the position of the last TPDO2. -/
def Server.Cached (v : Server) : Prop := ∀ p, v.tpdo2 = some p → v.ctx.sled.env.lastPosition = p

section Steps

variable {F : Numerals} {v v' : Server} {e : ServerEvent}

lemma commandHandler_lastPosition {conn : Conn} {text : List UInt8} {memory : CommandT}
    {ctx : ServerCtx} {r : ServerCtx × List Reply}
    (h : commandHandler F conn text memory ctx = .ok r) :
    r.1.sled.env.lastPosition = ctx.sled.env.lastPosition := by
  rw [commandHandler_eq] at h
  cases hparsed : parsed? F text memory with
  | none =>
    rw [hparsed] at h
    cases h
    rfl
  | some command =>
    rw [hparsed] at h
    exact (keptByCalls_lastPosition ctx.sled.env.lastPosition).handleCommand rfl h

lemma cached_step (hv : v.Cached) (h : serverStep F v e = .ok v') : v'.Cached := by
  cases e with
  | connect conn =>
    simp only [serverStep] at h
    split at h <;> cases h <;> exact hv
  | command conn text memory =>
    simp only [serverStep] at h
    split at h
    · obtain ⟨r, hr, h⟩ := bind_eq_ok.mp h
      cases h
      intro p hp
      exact (commandHandler_lastPosition hr).trans (hv p hp)
    · cases h
      exact hv
  | disconnect conn =>
    simp only [serverStep] at h
    split at h <;> cases h <;> exact hv
  | timeout tcurrent now =>
    cases h
    exact hv
  | read o now r =>
    obtain ⟨s, hs, h⟩ := bind_eq_ok.mp h
    cases h
    have hread := sledStep_read hs
    intro p hp
    cases hpdo : tpdo2? v.ctx.sled r with
    | none =>
      simp only [hpdo, Option.none_or] at hread hp
      exact hread.lastPosition.trans (hv p hp)
    | some q =>
      simp only [hpdo, Option.some_or, Option.some.injEq] at hread hp
      obtain ⟨velocity, henv⟩ := hread
      simp only [ServerCtx.withSled, henv, hp]
  | watchdog now =>
    obtain ⟨s, hs, h⟩ := bind_eq_ok.mp h
    cases h
    exact fun p hp => (kept_watchdog hs).lastPosition.trans (hv p hp)

/-- Only `SendCurrentFrame` is answered with a data frame. -/
lemma data_mem_handleCommand {conn : Conn} {command : Command} {ctx : ServerCtx}
    {r : ServerCtx × List Reply} {frame : UInt32} {time : UInt64} {position : Option ℚ}
    (h : handleCommand conn command ctx = .ok r) (hdata : .data frame time position ∈ r.2) :
    command.type = .sendcurrentframe ∧ ctx.sled.env.mchNet = .operational ∧
      position = some (ctx.sled.env.lastPosition * 1000) := by
  rcases mem_answers h hdata with hanswer | ⟨-, hreply⟩ | ⟨htype, hpos, hreply⟩
  · cases htype : command.type <;> simp_all [CommandType.answers]
  · cases hreply
  · unfold sledRtGetPosition at hpos hreply
    by_cases hnet : ctx.sled.env.mchNet = .operational
    · simp [hnet] at hreply
      exact ⟨htype, hnet, hreply.2.2⟩
    · simp [hnet] at hpos

lemma right_of_timeout {tcurrent now : ℚ} :
    Right v (.timeout tcurrent now) (some (fmod tcurrent 10 * 1000)) ↔
      v.ctx.sled.env.mchNet = .operational ∧ v.tpdo2 = some (fmod tcurrent 10) := by
  unfold Right
  by_cases hnet : v.ctx.sled.env.mchNet = .operational
  · simp only [hnet, if_true, true_and, Option.some.injEq]
    constructor
    · rintro ⟨p, hp, heq⟩
      rw [hp, mul_right_cancel₀ (by decide : (1000 : ℚ) ≠ 0) heq]
    · intro hp
      exact ⟨_, hp, rfl⟩
  · simp [hnet]

lemma sendsRight_timeout {tcurrent now : ℚ}
    (h : serverStep F v (.timeout tcurrent now) = .ok v') :
    SendsRight v (.timeout tcurrent now) v' ↔ Measured F v (.timeout tcurrent now) := by
  unfold SendsRight Measured
  rw [sent_of_step h]
  simp only [List.mem_map, Prod.mk.injEq, streamedFrame, Reply.data.injEq]
  constructor
  · intro hall hclients
    obtain ⟨conn, hconn⟩ := List.exists_mem_of_ne_nil _ hclients
    exact right_of_timeout.mp (hall conn _ _ _ ⟨conn, hconn, rfl, rfl, rfl, rfl⟩)
  · rintro hguard conn frame time position ⟨c, hc, -, -, -, rfl⟩
    exact right_of_timeout.mpr (hguard (List.ne_nil_of_mem hc))

lemma sendsRight_command {conn : Conn} {text : List UInt8} {memory : CommandT} (hv : v.Cached)
    (h : serverStep F v (.command conn text memory) = .ok v') :
    SendsRight v (.command conn text memory) v' ↔ Measured F v (.command conn text memory) := by
  unfold SendsRight Measured
  rw [sent_of_step h]
  by_cases hconn : conn ∈ v.connected
  swap
  · simp [hconn]
  simp only [hconn, if_true, forall_const]
  simp only [serverStep, if_pos hconn] at h
  obtain ⟨r, hr, -⟩ := bind_eq_ok.mp h
  rw [hr]
  dsimp only
  rw [commandHandler_eq] at hr
  cases hparsed : parsed? F text memory with
  | none =>
    rw [hparsed] at hr
    cases hr
    simp
  | some command =>
    rw [hparsed] at hr
    simp only [Option.some.injEq, exists_eq_left', List.mem_map, Prod.mk.injEq]
    constructor
    · intro hall htype hnet hnone
      have hdata : .data (-1) (-1) (some (v.ctx.sled.env.lastPosition * 1000)) ∈ r.2 := by
        simp only [rtc3dCommandHandler, handleCommand, htype, sledRtGetPosition, hnet] at hr
        cases hr
        simp
      have hright := hall conn _ _ _ ⟨_, hdata, rfl, rfl⟩
      rw [Right, if_pos hnet] at hright
      obtain ⟨p, hp, -⟩ := hright
      rw [hnone] at hp
      cases hp
    · rintro hguard c frame time position ⟨reply, hreply, -, rfl⟩
      obtain ⟨htype, hnet, rfl⟩ := data_mem_handleCommand hr hreply
      rw [Right, if_pos hnet]
      obtain ⟨p, hp⟩ := Option.ne_none_iff_exists'.mp (hguard htype hnet)
      exact ⟨p, hp, by rw [hv p hp]⟩

/-- The handler tests the state of the network before it looks at the position. -/
lemma refuses_step (h : serverStep F v e = .ok v') : Refuses F v e v' := by
  rintro conn text memory command rfl hconn hparsed htype hnet
  have hcall : handleCommand conn command v.ctx =
      .ok (v.ctx, [.error "err-sendcurrentframe"]) := by
    simp [handleCommand, htype, sledRtGetPosition, hnet]
  rw [serverStep_command hconn hparsed hcall] at h
  cases h
  simp [Server.replied]

/-- A step sends the right positions exactly when it is measured, or ends the process. -/
lemma sendsRight_iff (hv : v.Cached) :
    (∀ v', serverStep F v e = .ok v' → SendsRight v e v') ↔ Measured F v e := by
  have hquiet : (∀ v', serverStep F v e = .ok v' → v'.sent.drop v.sent.length = []) →
      Measured F v e →
        ((∀ v', serverStep F v e = .ok v' → SendsRight v e v') ↔ Measured F v e) := by
    intro hnone hmeasured
    refine iff_of_true (fun v' h conn frame time position hmem => ?_) hmeasured
    rw [hnone v' h] at hmem
    cases hmem
  cases e with
  | connect | disconnect | read | watchdog => exact hquiet (fun v' h => sent_of_step h) trivial
  | timeout tcurrent now =>
    constructor
    · exact fun hall => (sendsRight_timeout (F := F) rfl).mp (hall _ rfl)
    · exact fun hmeasured v' h => (sendsRight_timeout h).mpr hmeasured
  | command conn text memory =>
    constructor
    · intro hall hconn hcommand hnet
      obtain ⟨command, hparsed, htype⟩ := hcommand
      have hcall : ∃ ctx replies, handleCommand conn command v.ctx = .ok (ctx, replies) := by
        unfold handleCommand
        rw [htype]
        exact ⟨_, _, rfl⟩
      obtain ⟨ctx, replies, hr⟩ := hcall
      have hstep := serverStep_command hconn hparsed hr
      exact (sendsRight_command hv hstep).mp (hall _ hstep) hconn ⟨command, hparsed, htype⟩ hnet
    · exact fun hmeasured v' h => (sendsRight_command hv h).mpr hmeasured

end Steps

/-! ## Runs -/

lemma cached_serverStart {mem : SledEnv} {now : ℚ} {o : CanOutcome} {v : Server}
    (h : serverStart mem now o = .ok v) : v.Cached := by
  obtain ⟨s, -, rfl⟩ := serverStart_ok h
  intro p hp
  cases hp

/-- In a run, all positions that clients are told are right, and `SendCurrentFrame` is answered with
an error while the network is not operational, exactly when every answer to `SendCurrentFrame` with
the network operational comes after the first TPDO2, and whenever there is somebody to get the
stream, the clock happens to show the position. -/
theorem positions_right_iff (F : Numerals) {mem : SledEnv} {now : ℚ} {o : CanOutcome} {v₀ : Server}
    (h : serverStart mem now o = .ok v₀) (es : List ServerEvent) :
    (∀ pre e, pre ++ [e] <+: es → ∀ v, run (serverStep F) v₀ pre = .ok v →
      ∀ v', serverStep F v e = .ok v' → SendsRight v e v' ∧ Refuses F v e v') ↔
        Guarded (serverStep F) (Measured F) v₀ es := by
  rw [guarded_iff_forall]
  have hcached : ∀ pre v, run (serverStep F) v₀ pre = .ok v → v.Cached := fun pre v hrun =>
    run_invariant (fun _ _ _ hu hstep => cached_step hu hstep) (cached_serverStart h) hrun
  constructor
  · intro hall pre e hpre v hrun
    refine (sendsRight_iff (hcached pre v hrun)).mp fun v' hstep => ?_
    exact (hall pre e hpre v hrun v' hstep).1
  · intro hall pre e hpre v hrun v' hstep
    have hright := (sendsRight_iff (hcached pre v hrun)).mpr (hall pre e hpre v hrun)
    exact ⟨hright v' hstep, refuses_step hstep⟩

/-- Before the network is up, a client starts the stream and asks for the current frame. -/
theorem positions_right_iff_session : ∃ v w, serverStart someMemory 0 ⟨.success, true⟩ = .ok v ∧
    run (serverStep .decimal) v someSession = .ok w ∧
    (0, .error "err-sendcurrentframe") ∈ w.sent ∧
    ((∀ pre e, pre ++ [e] <+: someSession → ∀ u, run (serverStep .decimal) v pre = .ok u →
      ∀ u', serverStep .decimal u e = .ok u' → SendsRight u e u' ∧ Refuses .decimal u e u') ↔
        Guarded (serverStep .decimal) (Measured .decimal) v someSession) := by
  obtain ⟨v, hv⟩ := exists_serverStart
  obtain ⟨w, hw, -, -, -, herror, -⟩ := someSession_run hv
  exact ⟨v, w, hv, hw, herror, positions_right_iff .decimal hv someSession⟩

/-- A client starts the stream, and the timer expires when the clock shows three seconds. -/
theorem sawtooth_streamed : ∃ v v',
    Server.Reaches .decimal [.connect 0, .command 0 (bytes "StreamFrames") .zero] v ∧
    serverStep .decimal v (.timeout 3 3) = .ok v' ∧ ¬ SendsRight v (.timeout 3 3) v' := by
  obtain ⟨v, hv⟩ := exists_serverStart
  obtain ⟨s, -, rfl⟩ := serverStart_ok hv
  have hconn : 0 ∈ (⟨⟨s, [], fun _ => none⟩, [0], 0, [], none⟩ : Server).connected := by simp
  have hcall := serverStep_streamFrames hconn
  refine ⟨_, _, ⟨someMemory, 0, ⟨.success, true⟩, _, hv,
    run_cons_ok.mpr ⟨_, rfl, run_cons_ok.mpr ⟨_, hcall, rfl⟩⟩⟩, rfl, fun hright => ?_⟩
  obtain ⟨-, hnone⟩ := (sendsRight_timeout (F := .decimal) rfl).mp hright
    (List.ne_nil_of_mem (a := 0) (by simp [Server.replied]))
  cases hnone

end SledServer
