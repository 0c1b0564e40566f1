import SledServer.Server.Printing

/-!
# What a parsed command depends on

`rtc3d_command_handler` gives `parser_parse_string` a `command_t` that is not initialised.  What it
reads of it afterwards depends on the text alone (`Command.Agree`), with two exceptions: the keyword
`SetInternalStatus` alone, after which nothing has been assigned, and a profile with a next profile
but no delay, whose `next_delay` has not been assigned.

Printing a command and parsing the text gives the command back, except for `SendStatus`.
-/

namespace SledServer

open SledServer.Core Core.Lex Core.Lr Flex

/-! ## The scanner -/

namespace Flex

variable {F : Numerals} {text : List UInt8}

lemma keywords_proper : ∀ k ∈ keywords, Proper k.2 ∧ k.2 ≠ word .sendstatus := by
  have hall : ∀ k ∈ keywords, k.2.1 ∉ [.eof, .error, .int, .float, .postype, .string, .sendstatus] ∧
      k.2.2 = .empty ∨ ∃ type ∈ [PositionType.posAbsolute, .posRelativeTarget, .posRelativeActual],
        k.2 = (.postype, .pval type) := by
    decide
  intro k hk
  rcases hall k hk with ⟨hkind, hvalue⟩ | ⟨type, -, htoken⟩
  · have hword : k.2 = word k.2.1 := by
      rw [word, ← hvalue]
    rw [hword]
    simp only [List.mem_cons, List.not_mem_nil, or_false, not_or] at hkind
    exact ⟨proper_word.mpr (by simp [hkind]), by simp [word, hkind]⟩
  · rw [htoken]
    exact ⟨proper_postype type, by simp [word]⟩

/-- The scanner gives its tokens the values that they should have, and never returns
`SENDSTATUS`. -/
lemma yylex_proper {t : CommandToken} (h : t ∈ yylex F text) :
    Proper t ∧ t ≠ word .sendstatus := by
  obtain ⟨r, hr, w, hw⟩ := mem_scan h
  simp only [rules, signs, List.mem_append, List.mem_cons, List.not_mem_nil, or_false,
    List.mem_map] at hr
  rcases hr with ((rfl | rfl | rfl | rfl | rfl) | ⟨k, hk, rfl⟩) | rfl
  · cases hw
  · cases hw
  · obtain rfl := Option.some.inj hw
    exact ⟨⟨_, rfl⟩, by simp [word]⟩
  · obtain rfl := Option.some.inj hw
    exact ⟨⟨_, rfl⟩, by simp [word]⟩
  · obtain rfl := Option.some.inj hw
    exact ⟨rfl, by simp [word]⟩
  · obtain rfl := Option.some.inj hw
    exact keywords_proper k hk
  · obtain rfl := Option.some.inj hw
    exact ⟨trivial, by simp [word]⟩

end Flex

/-! ## The results -/

section Results

variable {F : Numerals} {text : List UInt8}

lemma parserParseString_sentence {s : Sentence} (h : yylex F text = s.tokens) (c : CommandT) :
    parserParseString F text c = (0, s.assign F c) := by
  unfold parserParseString
  rw [h, yyparse_sentence]

lemma parserParseString_setinternalstatus (h : yylex F text = [word .setinternalstatus])
    (c : CommandT) : parserParseString F text c = (0, c) := by
  unfold parserParseString
  rw [h, yyparse_setinternalstatus]

/-- All that `parser_parse_string` can do. -/
theorem parserParseString_cases (F : Numerals) (text : List UInt8) :
    (∃ s : Sentence, s ≠ .sendstatus ∧ yylex F text = s.tokens ∧
      ∀ c, parserParseString F text c = (0, s.assign F c)) ∨
    (yylex F text = [word .setinternalstatus] ∧ ∀ c, parserParseString F text c = (0, c)) ∨
      ∀ c, (parserParseString F text c).1 = -1 := by
  have hproper : ∀ t ∈ yylex F text, Proper t := fun t ht => (yylex_proper ht).1
  rcases yyparse_cases F hproper with
    ⟨s, hs⟩ | hs | ⟨g, hg⟩
  · refine .inl ⟨s, ?_, hs, parserParseString_sentence hs⟩
    rintro rfl
    have hmem : word .sendstatus ∈ yylex F text := hs ▸ List.mem_singleton_self _
    exact (yylex_proper hmem).2 rfl
  · exact .inr (.inl ⟨hs, parserParseString_setinternalstatus hs⟩)
  · refine .inr (.inr fun c => ?_)
    unfold parserParseString
    rw [hg]

end Results

/-! ## What the handler reads -/

/-- Two commands have the same type, and agree on what the handler reads of a command of this
type. -/
def Command.Agree (c d : Command) : Prop :=
  c.type = d.type ∧
  match c.type with
  | .setbyteorder => c.byteOrder = d.byteOrder
  | .streamframes | .lights => c.boolean = d.boolean
  | .profileExecute => c.profile = d.profile
  | .profileSet => c.profile = d.profile ∧ c.table = d.table ∧ c.positionType = d.positionType ∧
      c.position = d.position ∧ c.time = d.time ∧ c.nextProfile = d.nextProfile ∧
      (0 ≤ c.nextProfile → c.nextDelay = d.nextDelay ∧ c.blendType = d.blendType)
  | .sinusoid | .rsinusoid => c.boolean = d.boolean ∧
      (c.boolean = true → c.amplitude = d.amplitude ∧ c.period = d.period)
  | _ => True

/-- The handler reads nothing else. -/
theorem handleCommand_agree {c d : Command} (h : c.Agree d) (conn : Conn) (ctx : ServerCtx) :
    handleCommand conn c ctx = handleCommand conn d ctx := by
  obtain ⟨htype, hfields⟩ := h
  unfold handleCommand
  rw [← htype]
  cases hc : c.type with
  | setbyteorder | streamframes | lights | profileExecute =>
    simp only [hc] at hfields
    simp only [hfields]
  | profileSet =>
    simp only [hc] at hfields
    obtain ⟨hprofile, htable, hptype, hposition, htime, hnext, hrest⟩ := hfields
    have hsetNext : profileSetNext c = profileSetNext d := by
      funext profileId ctx
      unfold profileSetNext
      rw [← hnext]
      by_cases hpos : c.nextProfile ≥ 0
      · obtain ⟨hdelay, hblend⟩ := hrest hpos
        rw [hdelay, hblend]
      · rw [if_neg hpos, if_neg hpos]
    simp only [cmdProfileSet, profileSetTarget, hprofile, htable, hptype, hposition, htime,
      hsetNext]
  | sinusoid | rsinusoid =>
    simp only [hc] at hfields
    obtain ⟨hon, hrest⟩ := hfields
    by_cases hstart : c.boolean = true
    · obtain ⟨hamplitude, hperiod⟩ := hrest hstart
      simp only [← hon, hamplitude, hperiod]
    · simp only [← hon, if_neg hstart]
  | _ => rfl

/-- A `command_t` in memory that is all zero. -/
def CommandT.zero : CommandT where
  type := .setbyteorder
  boolean := false
  byteOrder := .bigEndian
  amplitude := 0
  period := 0
  profile := 0
  table := 0
  positionType := .posAbsolute
  position := 0
  time := 0
  nextProfile := 0
  nextDelay := 0
  blendType := .blnNone
  status := .off

/-- A sentence says all that the handler reads, unless it names a next profile but no delay. -/
lemma agree_assign (F : Numerals) (s : Sentence) :
    (∀ c d, (s.assign F c).Agree (s.assign F d).toCommand) ↔
      ∀ profile table type position time next, 0 ≤ next →
        s ≠ .profileSet profile table type position time (some ⟨next, none, none⟩) := by
  constructor
  · rintro hagree profile table type position time next hnext rfl
    have hdelay := (hagree .zero { CommandT.zero with nextDelay := 1 }).2
    simp [Sentence.assign, hnext, CommandT.zero] at hdelay
  · intro hs c d
    cases s with
    | profileSet profile table type position time next =>
      obtain _ | ⟨next, _ | delay, _ | blend⟩ := next
      · simp [Sentence.assign, Command.Agree]
      · have hneg : ¬ 0 ≤ next := fun hnext => hs profile table type position time next hnext rfl
        simp [Sentence.assign, Command.Agree, hneg]
      · simp [Sentence.assign, Command.Agree]
      · simp [Sentence.assign, Command.Agree]
      · simp [Sentence.assign, Command.Agree]
    | _ => simp [Sentence.assign, Command.Agree]

/-- The texts for which the handler reads what has not been assigned. -/
theorem parserParseString_agree_iff (F : Numerals) (text : List UInt8) :
    (∀ c d, (parserParseString F text c).1 = (parserParseString F text d).1 ∧
      ((parserParseString F text c).1 = 0 →
        (parserParseString F text c).2.Agree (parserParseString F text d).2.toCommand)) ↔
    yylex F text ≠ [word .setinternalstatus] ∧
      ∀ profile table type position time next, 0 ≤ next → yylex F text ≠
        (Sentence.profileSet profile table type position time
          (some ⟨next, none, none⟩)).tokens := by
  have hwords : ∀ s : Sentence, s.tokens ≠ [word .setinternalstatus] := by
    intro s hs
    have hmem := Yac.mem_sentenceKinds s
    rw [hs] at hmem
    exact absurd hmem (by decide)
  rcases parserParseString_cases F text with ⟨s, -, hs, hparse⟩ | ⟨hs, hparse⟩ | hparse
  · simp only [hparse, hs, Sentence.tokens_injective.ne_iff, hwords, ne_eq, not_false_eq_true,
      true_and, forall_const]
    exact agree_assign F s
  · refine iff_of_false (fun hagree => ?_) fun h => h.1 hs
    obtain ⟨-, hagree⟩ := hagree .zero { CommandT.zero with type := .bye }
    rw [hparse, hparse] at hagree
    exact absurd (hagree rfl).1 (by decide)
  · refine iff_of_true (fun c d => ?_) ⟨fun hs => ?_, fun _ _ _ _ _ _ _ hs => ?_⟩
    · rw [hparse, hparse]
      exact ⟨rfl, fun hzero => absurd hzero (by decide)⟩
    · have hzero := hparse .zero
      rw [parserParseString_setinternalstatus hs] at hzero
      exact absurd hzero (by simp)
    · have hzero := hparse .zero
      rw [parserParseString_sentence hs] at hzero
      exact absurd hzero (by simp)

/-- The value of a row of digits. -/
def decimal (w : List UInt8) : ℤ := w.foldl (fun n d => 10 * n + (d.toNat - 48)) 0

/-- Conversions that are right for positive integers. -/
def Numerals.decimal : Numerals := ⟨SledServer.decimal, fun w => SledServer.decimal w, id⟩

/-- After `SetInternalStatus` alone the type is what it was before. -/
theorem parserParseString_setinternalstatus_disagree :
    (parserParseString .decimal (bytes "SetInternalStatus") .zero).1 = 0 ∧
    (parserParseString .decimal (bytes "SetInternalStatus") .zero).2.type = .setbyteorder ∧
    (parserParseString .decimal (bytes "SetInternalStatus")
      { CommandT.zero with type := .bye }).2.type = .bye := by
  have hprinted : Printed .decimal [word .setinternalstatus] (bytes "SetInternalStatus") :=
    .one (.keyword (k := ("setinternalstatus", word .setinternalstatus)) (by decide) (by decide))
  have hlex := yylex_printed hprinted (by decide)
  rw [parserParseString_setinternalstatus hlex, parserParseString_setinternalstatus hlex]
  exact ⟨rfl, rfl, rfl⟩

/-! ## Printing and parsing -/

lemma eq_sendstatus_of_mem {s : Sentence} (h : word .sendstatus ∈ s.tokens) : s = .sendstatus := by
  have honly : ∀ ts ∈ Yac.sentenceKinds, .sendstatus ∈ ts → ts = [.sendstatus] := by decide
  have hmem : .sendstatus ∈ s.tokens.map Prod.fst := List.mem_map_of_mem h
  obtain ⟨t, ht, -⟩ := List.map_eq_singleton_iff.mp (honly _ (Yac.mem_sentenceKinds s) hmem)
  rw [ht] at h
  obtain rfl := List.mem_singleton.mp h
  exact Sentence.tokens_injective ht

lemma Flex.Lexeme.sendstatus {F : Numerals} {t : CommandToken} {w : List UInt8}
    (h : Lexeme F t w) (ht : t = word .sendstatus) : Spells "sendstatus" w := by
  cases h with
  | keyword hk hw =>
    rcases List.mem_append.mp hk with hk | hk
    · exact absurd ht (keywords_proper _ hk).2
    · obtain rfl := List.mem_singleton.mp hk
      exact hw
  | int hw => simp [word, integer] at ht
  | float hw => simp [word] at ht
  | colon => simp [word] at ht

/-- `SendStatus` is a string for the scanner. -/
lemma yylex_sendstatus {F : Numerals} {text : List UInt8}
    (h : Printed F [word .sendstatus] text) : yylex F text = [(.string, .sval text)] := by
  cases h with
  | one hw =>
    exact scan_whole hw.ne_nil (ruleFor?_sendstatus (F := F) (hw.sendstatus rfl))
  | cons hw hgap hrest => cases hrest

lemma parserParseString_sendstatus {F : Numerals} {text : List UInt8}
    (h : Printed F [word .sendstatus] text) (c : CommandT) :
    (parserParseString F text c).1 = -1 := by
  have hlex := yylex_sendstatus h
  rcases parserParseString_cases F text with ⟨s, -, hs, -⟩ | ⟨hs, -⟩ | hcode
  · have hmem := Yac.mem_sentenceKinds s
    rw [← hs, hlex] at hmem
    have hnot : [Terminal.string] ∉ Yac.sentenceKinds := by decide
    exact absurd hmem hnot
  · rw [hlex] at hs
    simp [word] at hs
  · exact hcode c

/-- Parsing inverts printing, but for the one command that the scanner does not know. -/
theorem parserParseString_printed {F : Numerals} {s : Sentence} {text : List UInt8}
    (h : Printed F s.tokens text) :
    (∀ c, parserParseString F text c = (0, s.assign F c)) ↔ s ≠ .sendstatus := by
  constructor
  · rintro hparse rfl
    have hcode := parserParseString_sendstatus h .zero
    rw [hparse] at hcode
    exact absurd hcode (by simp)
  · intro hs c
    refine parserParseString_sentence (yylex_printed h fun hmem => ?_) c
    exact hs (eq_sendstatus_of_mem hmem)

theorem parserParseString_printed_execute :
    parserParseString .decimal (bytes "profile 7 \tEXECUTE") .zero =
      (0, (Sentence.profileExecute 7).assign .decimal .zero) := by
  have hint : Lexeme .decimal (integer 7) (bytes "7") :=
    .int ⟨[], bytes "7", .inl rfl, by decide, by decide, rfl⟩
  have hprinted : Printed .decimal (Sentence.profileExecute 7).tokens
      (bytes "profile" ++ bytes " " ++ (bytes "7" ++ bytes " \t" ++ bytes "EXECUTE")) :=
    .cons (.keyword (k := ("profile", word .profile)) (by decide) (by decide))
      (by decide) <|
    .cons hint (by decide) <|
    .one (.keyword (k := ("execute", word .execute)) (by decide) (by decide))
  exact (parserParseString_printed hprinted).mpr (by simp) .zero

/-- The command that the scanner does not know. -/
theorem parserParseString_sendstatus_rejected :
    Printed .decimal Sentence.sendstatus.tokens (bytes "SendStatus") ∧
    parserParseString .decimal (bytes "SendStatus") .zero ≠
      (0, Sentence.sendstatus.assign .decimal .zero) := by
  have hprinted : Printed .decimal Sentence.sendstatus.tokens (bytes "SendStatus") :=
    .one (.keyword (k := ("sendstatus", word .sendstatus)) (by decide) (by decide))
  refine ⟨hprinted, fun hparse => ?_⟩
  have hcode := parserParseString_sendstatus hprinted .zero
  rw [hparse] at hcode
  exact absurd hcode (by simp)

end SledServer
