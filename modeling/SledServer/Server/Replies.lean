import SledServer.Server.Mapping

/-!
# One request, one reply

The clients match replies with requests by their order.  Three commands are not answered at all, and
a profile with a position out of bounds is answered twice (`one_reply_iff`).
-/

namespace SledServer

open SledServer.Core Flex

/-! ## Packets -/

/-- The reply is a packet. -/
def Reply.isPacket : Reply → Bool
  | .error _ | .command _ | .data _ _ _ => true
  | .setByteOrder _ | .disconnect => false

/-- The number of packets among the replies. -/
def packets (replies : List Reply) : ℕ := replies.countP Reply.isPacket

@[simp] lemma packets_append (rs rs' : List Reply) :
    packets (rs ++ rs') = packets rs + packets rs' :=
  List.countP_append

@[simp] lemma packets_error (text : String) : packets [.error text] = 1 := rfl

@[simp] lemma packets_command (text : String) : packets [.command text] = 1 := rfl

/-- The commands that are not answered. -/
def CommandType.Silent (type : CommandType) : Prop :=
  type = .sendstatus ∨ type = .home ∨ type = .clearfault

/-- There is no profile for the id: it stands for a negative one, or it is new and no profile is
free. -/
def ServerCtx.Lacks (ctx : ServerCtx) (profile : ℤ) : Prop :=
  (∃ id, ctx.profileTlate profile = some id ∧ id < 0) ∨
    ctx.profileTlate profile = none ∧ ctx.sled.env.free = ∅

/-- The text is no command, or one that is answered, and if it sets a profile, then there is none
for its id or the position is within the bounds. -/
def RepliesOnce (command : Option Command) (ctx : ServerCtx) : Prop :=
  ∀ c, command = some c → ¬ c.type.Silent ∧
    (c.type = .profileSet → ctx.Lacks c.profile ∨ |c.position| ≤ 1 / 2)

/-! ## The handler -/

section Handler

variable {conn : Conn} {command : Command} {ctx : ServerCtx} {r : ServerCtx × List Reply}

lemma packets_profileSetNext (command : Command) (id : ℤ) (ctx : ServerCtx) :
    packets (profileSetNext command id ctx).2 = 1 := by
  unfold profileSetNext
  split
  · dsimp only
    split <;> rfl
  · rfl

lemma packets_profileSetTarget (command : Command) (id : ℤ) (ctx : ServerCtx) :
    packets (profileSetTarget command id ctx).2 = 1 := by
  simp only [profileSetTarget]
  split
  · rfl
  · split
    · rfl
    · exact packets_profileSetNext command id _

/-- A position out of bounds is refused, and then the profile is set, with a second answer. -/
lemma packets_cmdProfileSet (command : Command) (ctx : ServerCtx) :
    packets (cmdProfileSet command ctx).2 = 1 ↔
      ctx.Lacks command.profile ∨ |command.position| ≤ 1 / 2 := by
  rw [ServerCtx.Lacks, ← tlateProfileId_neg_iff]
  simp only [cmdProfileSet]
  by_cases hid : (tlateProfileId command.profile ctx).1 < 0
  · simp [hid]
  · simp only [hid, if_false, packets_append, packets_profileSetTarget, false_or]
    by_cases hposition : |command.position| > 1 / 2
    · rw [if_pos hposition, packets_error]
      exact iff_of_false (by decide) (not_le.mpr hposition)
    · rw [if_neg hposition]
      exact iff_of_true rfl (not_lt.mp hposition)

lemma packets_replyTo {x : Except Halt (ℤ × Sled)} {ok err : String}
    (h : (x >>= fun a => .ok (replyTo ctx ok err a)) = .ok r) : packets r.2 = 1 := by
  obtain ⟨a, -, h⟩ := bind_eq_ok.mp h
  cases h
  simp only [replyTo]
  split <;> rfl

lemma packets_handleCommand (h : handleCommand conn command ctx = .ok r) :
    packets r.2 = 1 ↔ ¬ command.type.Silent ∧ (command.type = .profileSet →
      ctx.Lacks command.profile ∨ |command.position| ≤ 1 / 2) := by
  unfold handleCommand at h
  unfold CommandType.Silent
  cases htype : command.type <;> rw [htype] at h <;> dsimp only at h
  case profileSet =>
    cases h
    simpa using packets_cmdProfileSet command ctx
  case sendstatus | home | clearfault =>
    cases h
    exact iff_of_false (by simp [packets]) (by simp)
  case profileExecute | lights => exact iff_of_true (packets_replyTo h) (by simp)
  case sinusoid | rsinusoid =>
    refine iff_of_true ?_ (by simp)
    split at h <;> exact packets_replyTo h
  case sendcurrentframe =>
    cases h
    refine iff_of_true ?_ (by simp)
    dsimp only
    split <;> rfl
  all_goals
    cases h
    exact iff_of_true rfl (by simp)

end Handler

/-- In every state the handler sends exactly one packet, if it returns, unless the text is one of
the commands that are not answered or sets a profile to a position out of bounds; and it returns in
every state that the server can reach. -/
theorem one_reply_iff (F : Numerals) (conn : Conn) (text : List UInt8) (memory : CommandT) :
    (∀ ctx r, commandHandler F conn text memory ctx = .ok r →
      (packets r.2 = 1 ↔ RepliesOnce (parsed? F text memory) ctx)) ∧
    ∀ es v, Server.Reaches F es v → ∃ r, commandHandler F conn text memory v.ctx = .ok r := by
  constructor
  · intro ctx r h
    rw [commandHandler_eq] at h
    unfold RepliesOnce
    cases hparsed : parsed? F text memory with
    | none =>
      rw [hparsed] at h
      cases h
      exact iff_of_true rfl (by simp)
    | some command =>
      rw [hparsed] at h
      rw [packets_handleCommand h]
      constructor
      · rintro hanswered c hc
        cases hc
        exact hanswered
      · intro hanswered
        exact hanswered command rfl
  · intro es v h
    obtain ⟨r, hr, -⟩ := commandHandler_mapped (mapped_reaches h) F conn text memory
    exact ⟨r, hr⟩

/-- `Home` is not answered. -/
theorem home_not_answered :
    commandHandler .decimal 0 (bytes "Home") .zero someServer = .ok (someServer, []) ∧
      packets [] ≠ 1 := by
  have hlex : yylex .decimal (bytes "Home") = Sentence.home.tokens :=
    yylex_printed (.one (.keyword (k := ("home", word .home)) (by decide) (by decide))) (by decide)
  refine ⟨?_, by decide⟩
  rw [commandHandler_eq, parsed?, parserParseString_sentence hlex]
  rfl

end SledServer
