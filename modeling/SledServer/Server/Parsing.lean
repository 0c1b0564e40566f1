import SledServer.Server.Sentences

/-!
# What the parser accepts

The parser of `parser.yac` accepts the sentences of the grammar and carries out their actions; and
it accepts the keyword `SetInternalStatus` alone, by way of the rule with `error`, without any
action (`yyparse_cases`).
-/

namespace SledServer

open Core.Lr Flex

namespace Yac

/-! ## The grammar without the actions -/

/-- The rules do not depend on the conversions of numerals. -/
def shape : Shape Terminal Nonterminal := (grammar ⟨fun _ => 0, fun _ => 0, id⟩).shape

lemma grammar_shape (F : Numerals) : (grammar F).shape = shape := rfl

/-- The grammar without its actions. -/
def bare : Grammar Terminal Nonterminal Unit Unit := (grammar ⟨fun _ => 0, fun _ => 0, id⟩).forget

lemma grammar_forget (F : Numerals) : (grammar F).forget = bare := rfl

lemma eofLast (F : Numerals) : EofLast (grammar F) := by
  have hall : ∀ r ∈ shape.rules, .terminal .eof ∉ r.2 := by decide
  intro r hr
  have hmem : (r.lhs, r.rhs) ∈ (grammar F).shape.rules := List.mem_map_of_mem hr
  exact hall _ hmem

/-- The weights of the symbols. -/
def weight : Symbol Terminal Nonterminal → ℕ
  | .terminal _ => 3
  | .nonterminal .command => 1
  | .nonterminal _ => 2

def weighing : Weighing shape where
  weight := weight
  bound := 3
  reduces := by decide
  terminal_le := fun _ => le_rfl

end Yac

open Yac

/-- The parser comes to an end. -/
lemma yyparse_isSome (F : Numerals) (toks : List CommandToken) :
    (runEffect (grammar F) (8 * toks.length + 5) (begin toks)).isSome = true :=
  runEffect_begin_isSome (G := grammar F) weighing toks

/-! ## Errors -/

namespace Yac

variable {stack : List (Frame Terminal Nonterminal YYSTYPE)}

/-- The state after `SETINTERNALSTATUS`. -/
def afterStatus : List (Item Terminal Nonterminal) :=
  shape.goto shape.startState (tok .setinternalstatus)

lemma symbols_eq_nil (h : symbols stack = []) : stack = [] := by
  simpa [symbols] using h

/-- Only at the beginning does the parser wait for a command. -/
lemma stack_of_expects_command (h : Path shape stack)
    (hX : expects (top shape stack) (non .command)) : stack = [] := by
  obtain ⟨above, below, rest, rfl, ⟨hrhs, rfl⟩ | ⟨r, hr, hrhs, -⟩⟩ := h.origin hX
  · have hroot : [] ++ non .command :: [tok .eof] = symbols above ++ non .command :: rest := hrhs
    obtain ⟨hsymbols, -⟩ := (List.append_cons_inj_of_notMem (by decide) (by decide)).mp hroot
    rw [symbols_eq_nil hsymbols.symm, List.append_nil]
  · have hnone : ∀ r ∈ shape.rules, non .command ∉ r.2 := by decide
    exact absurd (by simp [hrhs]) (hnone r hr)

/-- Nor does it wait for this kind of command anywhere else. -/
lemma stack_of_expects_setinternalstatus (h : Path shape stack)
    (hX : expects (top shape stack) (non .setinternalstatus)) : stack = [] := by
  obtain ⟨above, below, rest, rfl, ⟨hrhs, -⟩ | ⟨r, hr, hrhs, hbelow⟩⟩ := h.origin hX
  · have hroot : non .setinternalstatus ∉ shape.rhs none := by decide
    exact absurd (by simp [hrhs]) hroot
  · have honly : ∀ r ∈ shape.rules, non .setinternalstatus ∈ r.2 →
        r = (.command, [] ++ non .setinternalstatus :: []) := by decide
    obtain rfl := honly r hr (by simp [hrhs])
    obtain rfl := stack_of_expects_command h.of_append hbelow
    obtain ⟨hsymbols, -⟩ := (List.append_cons_inj_of_notMem (by decide) (by decide)).mp hrhs
    rw [symbols_eq_nil hsymbols.symm, List.append_nil]

/-- `error` is waited for after `SETINTERNALSTATUS` only. -/
lemma stack_of_expects_error (h : Path shape stack) (hX : expects (top shape stack) (tok .error)) :
    ∃ v, stack = [⟨afterStatus, tok .setinternalstatus, v⟩] := by
  obtain ⟨above, below, rest, rfl, ⟨hrhs, -⟩ | ⟨r, hr, hrhs, hbelow⟩⟩ := h.origin hX
  · have hroot : tok .error ∉ shape.rhs none := by decide
    exact absurd (by simp [hrhs]) hroot
  · have honly : ∀ r ∈ shape.rules, tok .error ∈ r.2 →
        r = (.setinternalstatus, [tok .setinternalstatus] ++ tok .error :: []) := by decide
    obtain rfl := honly r hr (by simp [hrhs])
    obtain rfl := stack_of_expects_setinternalstatus h.of_append hbelow
    obtain ⟨hsymbols, -⟩ := (List.append_cons_inj_of_notMem (by decide) (by decide)).mp hrhs
    rw [List.append_nil] at h ⊢
    have hmap : above.map Frame.symbol = [tok .setinternalstatus] := by
      simpa [symbols] using hsymbols.symm
    obtain ⟨frame, rfl, hframe⟩ := List.map_eq_singleton_iff.mp hmap
    obtain ⟨state, symbol, v⟩ := frame
    obtain rfl : symbol = tok .setinternalstatus := hframe
    obtain rfl : state = afterStatus := h.1
    exact ⟨v, rfl⟩

/-- Behind what can follow `SETINTERNALSTATUS` its rule is complete. -/
lemma goto_afterStatus {X : Symbol Terminal Nonterminal} (hX : expects afterStatus X) :
    ∃ k, k < 48 ∧ shape.goto afterStatus X = [⟨some k, []⟩] := by
  have hall : ∀ i ∈ afterStatus, ∀ X ∈ i.rest.head?, ∃ k ∈ List.range 48,
      shape.goto afterStatus X = [⟨some k, []⟩] := by decide +kernel
  obtain ⟨i, hi, hhead⟩ := exists_of_expects hX
  obtain ⟨k, hk, hgoto⟩ := hall i hi X hhead
  exact ⟨k, List.mem_range.mp hk, hgoto⟩

/-- A parser that is stuck and can recover has just seen `SETINTERNALSTATUS`. -/
lemma stack_of_stuck {F : Numerals} {c : Config Terminal Nonterminal YYSTYPE}
    {above : List (Frame Terminal Nonterminal YYSTYPE)} (hpath : Path shape c.stack)
    (hstuck : Stuck (grammar F) c) (hstack : c.stack = above ++ stack)
    (hX : expects (top shape stack) (tok .error)) :
    ∃ v, c.stack = [⟨afterStatus, tok .setinternalstatus, v⟩] := by
  rw [hstack] at hpath
  obtain ⟨v, rfl⟩ := stack_of_expects_error hpath.of_append hX
  rcases List.eq_nil_or_concat above with rfl | ⟨above, frame, rfl⟩
  · exact ⟨v, hstack⟩
  · rw [List.concat_eq_append, List.append_assoc] at hstack hpath
    obtain ⟨hstate, hframe, -⟩ := hpath.of_append
    obtain ⟨k, hk, hgoto⟩ := goto_afterStatus hframe
    have hstate : frame.state = [⟨some k, []⟩] := hstate.trans hgoto
    rcases List.eq_nil_or_concat above with rfl | ⟨above, frame', rfl⟩
    · have hred : ((grammar F).rules[k]?) = none := by
        simpa [hstack, top, hstate, reduce?] using hstuck.2
      have hlen : (grammar F).rules.length = 49 := rfl
      rw [List.getElem?_eq_none_iff] at hred
      omega
    · rw [List.concat_eq_append, List.append_assoc] at hpath
      obtain ⟨-, hframe', -⟩ := hpath.of_append
      simp [top, hstate, expects] at hframe'

/-! ### Recovery -/

lemma goto_error : shape.goto afterStatus (tok .error) = [⟨some 47, []⟩] := by decide +kernel

lemma goto_setinternalstatus :
    shape.goto shape.startState (non .setinternalstatus) = [⟨some 11, []⟩] := by decide +kernel

lemma goto_command : shape.goto shape.startState (non .command) = [⟨none, [tok .eof]⟩] := by
  decide +kernel

lemma expects_afterStatus_error : expects afterStatus (tok .error) = true := by decide +kernel

variable {F : Numerals} {v : YYSTYPE} {input : List CommandToken} {e : ℕ}

/-- A complete rule is reduced, whatever comes next. -/
lemma step_reduce {frame : Frame Terminal Nonterminal YYSTYPE} {k : ℕ} {r : CommandRule}
    (hstate : frame.state = [⟨some k, []⟩]) (hr : (grammar F).rules[k]? = some r) :
    step (grammar F) ⟨frame :: stack, input, e⟩ =
      .next ⟨push shape (non r.lhs) (r.value (values ((frame :: stack).take r.rhs.length)))
        ((frame :: stack).drop r.rhs.length), input, e⟩
        (r.effect (values ((frame :: stack).take r.rhs.length))) := by
  simp [step, top, hstate, expects, reduce?, hr, grammar_shape]

/-- At the end of a command the parser wants the end of the text. -/
lemma eq_nil_of_run_command {n : ℕ} {g : CommandT → CommandT}
    (hrun : runEffect (grammar F) n ⟨push shape (non .command) v [], input, 3⟩ = some (true, g))
    (hinput : ∀ t ∈ input, Proper t) : input = [] ∧ g = id := by
  have htop : top shape (push shape (non .command) v []) = [⟨none, [tok .eof]⟩] := goto_command
  cases n with
  | zero => simp [runEffect] at hrun
  | succ n =>
    cases input with
    | nil =>
      have hstep : step (grammar F) ⟨push shape (non .command) v [], [], 3⟩ = .accept := by
        simp only [step, grammar_shape, htop]
        rfl
      simp only [runEffect, hstep, Option.some.injEq, Prod.mk.injEq, true_and] at hrun
      exact ⟨rfl, hrun.symm⟩
    | cons t input =>
      have heof : t.1 ≠ .eof := by
        intro heof
        have hproper := hinput t List.mem_cons_self
        simp [Proper, heof] at hproper
      have hstep : step (grammar F) ⟨push shape (non .command) v [], t :: input, 3⟩ = .abort := by
        have hX : expects [⟨none, [tok .eof]⟩] (tok t.1) = false := by
          simp [expects, Ne.symm heof]
        have hunwind : unwind shape (push shape (non .command) v []) = none := by
          simp only [unwind, push, top, goto_command]
          rfl
        simp only [step, grammar_shape, htop, lookahead, hX, fail, recover, hunwind]
        rfl
      simp [runEffect, hstep] at hrun

/-- A recovery ends well at the end of the text, and without an action. -/
lemma eq_nil_of_run_error {n : ℕ} {g : CommandT → CommandT}
    (hrun : runEffect (grammar F) n
      ⟨push shape (tok .error) default [⟨afterStatus, tok .setinternalstatus, v⟩], input, 3⟩ =
        some (true, g)) (hinput : ∀ t ∈ input, Proper t) :
    input = [] ∧ g = id := by
  obtain ⟨_, _, -, hcommand, rfl⟩ := runEffect_of_next hrun (step_reduce (k := 47) goto_error rfl)
  obtain ⟨_, _, -, hend, rfl⟩ :=
    runEffect_of_next hcommand (step_reduce (k := 11) goto_setinternalstatus rfl)
  exact eq_nil_of_run_command hend hinput

/-! ## Acceptance -/

/-- What the parser accepts, and what it does then. -/
theorem runEffect_accept {toks : List CommandToken} (hu : ∀ t ∈ toks, Proper t) {n : ℕ}
    {g : CommandT → CommandT} (hrun : runEffect (grammar F) n (begin toks) = some (true, g)) :
    (∃ s : Sentence, toks = s.tokens ∧ g = s.assign F) ∨
      toks = [word .setinternalstatus] ∧ g = id := by
  rcases run_accept (eofLast F) (.begin toks) hrun with
    ⟨_, h⟩ | ⟨c, f, m, g', hsound, hstuck, h, hg⟩
  · exact .inl (derives_command h hu)
  · have hstep := hsound.step_of_stuck hstuck
    cases hstack : unwind shape c.stack with
    | none =>
      have habort : step (grammar F) c = .abort := by
        rw [hstep, recover, grammar_shape, hstack]
      cases m <;> simp [runEffect, habort] at h
    | some stack =>
      obtain ⟨⟨above, habove⟩, hX⟩ := unwind_eq_some hstack
      obtain ⟨v, hv⟩ := stack_of_stuck hsound.path hstuck habove hX
      have hrecover : unwind shape [⟨afterStatus, tok .setinternalstatus, v⟩] =
          some [⟨afterStatus, tok .setinternalstatus, v⟩] := if_pos expects_afterStatus_error
      rw [recover, hv, grammar_shape, hrecover] at hstep
      obtain ⟨_, g', -, hrest, rfl⟩ := runEffect_of_next h hstep
      obtain ⟨used, htoks, hderives⟩ := hsound.derives
      have hinput : ∀ t ∈ c.input, Proper t := fun t ht => hu t (by simp [htoks, ht])
      obtain ⟨hnil, rfl⟩ := eq_nil_of_run_error hrest hinput
      rw [hnil, List.append_nil] at htoks
      subst htoks
      rw [hv] at hderives
      obtain ⟨hword, rfl⟩ :=
        derives_words [.setinternalstatus] hderives hu (by simp [IsWord, Proper])
      exact .inr ⟨hword, hg⟩

/-! ### The sentences are accepted

Whether the parser accepts only depends on the kinds of the tokens, and of these the sentences show
a finite number of sequences.
-/

def numeralKinds : List (List Terminal) := [[.int], [.float]]

def nextKinds : List (List Terminal) :=
  [] :: ([[], [.after, .int], [.after, .float]] : List (List Terminal)).flatMap fun after =>
    ([[], [.blend, .before], [.blend, .after]] : List (List Terminal)).map fun blend =>
      ([.next, .int] : List Terminal) ++ after ++ blend

def sentenceKinds : List (List Terminal) :=
  ([[.setbyteorder, .bigendian], [.setbyteorder, .littleendian], [.sendcurrentframe],
    [.sendstatus], [.streamframes], [.streamframes, .frequencydivisor, .colon, .int],
    [.streamframes, .stop], [.profile, .int, .execute], [.sinusoid, .stop], [.rsinusoid, .stop],
    [.lights, .on], [.lights, .off], [.bye], [.home], [.clearfault], [.setinternalstatus, .off],
    [.setinternalstatus, .preoperational], [.setinternalstatus, .operational],
    [.setinternalstatus, .outputenabled], [.sendinternalstatus]] : List (List Terminal)) ++
  (numeralKinds.flatMap fun x => numeralKinds.flatMap fun y =>
    [([.sinusoid, .start] : List Terminal) ++ x ++ y,
      ([.rsinusoid, .start] : List Terminal) ++ x ++ y] ++
      nextKinds.map fun next =>
        ([.profile, .int, .set, .table, .int, .postype] : List Terminal) ++ x ++ y ++ next)

/-- The parser without actions, on the kinds of the tokens. -/
def accepts (ts : List Terminal) : Bool :=
  ((runEffect bare (8 * ts.length + 5) (begin (ts.map fun t => (t, ())))).map Prod.fst) = some true

lemma accepts_sentenceKinds : ∀ ts ∈ sentenceKinds, accepts ts = true := by decide +kernel

lemma mem_numeralKinds (x : Numeral) : [x.token.1] ∈ numeralKinds := by
  cases x <;> simp [numeralKinds, Numeral.token, integer]

lemma mem_nextKinds (next : Option NextPart) :
    ((next.map NextPart.tokens).getD []).map Prod.fst ∈ nextKinds := by
  obtain _ | ⟨n, _ | (_ | _), _ | (_ | _)⟩ := next <;>
    simp [nextKinds, NextPart.tokens, Blend.tokens, Numeral.token, word, integer]

lemma mem_sentenceKinds (s : Sentence) : s.tokens.map Prod.fst ∈ sentenceKinds := by
  cases s with
  | byteorder order => cases order <;> simp [sentenceKinds, Sentence.tokens, word]
  | lights on => cases on <;> simp [sentenceKinds, Sentence.tokens, word]
  | setinternalstatus status =>
    cases status <;> simp [sentenceKinds, Sentence.tokens, word, Status.terminal]
  | sinusoidStart amplitude period =>
    refine List.mem_append_right _ (List.mem_flatMap.mpr ⟨_, mem_numeralKinds amplitude, ?_⟩)
    refine List.mem_flatMap.mpr ⟨_, mem_numeralKinds period, ?_⟩
    simp [Sentence.tokens, word]
  | rsinusoidStart amplitude period =>
    refine List.mem_append_right _ (List.mem_flatMap.mpr ⟨_, mem_numeralKinds amplitude, ?_⟩)
    refine List.mem_flatMap.mpr ⟨_, mem_numeralKinds period, ?_⟩
    simp [Sentence.tokens, word]
  | profileSet profile table type position time next =>
    refine List.mem_append_right _ (List.mem_flatMap.mpr ⟨_, mem_numeralKinds position, ?_⟩)
    refine List.mem_flatMap.mpr ⟨_, mem_numeralKinds time, List.mem_append_right _ ?_⟩
    refine List.mem_map.mpr ⟨_, mem_nextKinds next, ?_⟩
    simp [Sentence.tokens, word, integer]
  | _ => simp [sentenceKinds, Sentence.tokens, word, integer]

/-- The parser accepts what it accepts without the actions. -/
lemma exists_runEffect (toks : List CommandToken) (h : accepts (toks.map Prod.fst) = true) :
    ∃ g, runEffect (grammar F) (8 * toks.length + 5) (begin toks) = some (true, g) := by
  have hforget := runEffect_forget (grammar F) (8 * toks.length + 5) (begin toks)
  have hbegin : (begin toks : Config Terminal Nonterminal YYSTYPE).forget =
      begin ((toks.map Prod.fst).map fun t => (t, ())) := by
    simp [begin, Config.forget]
  simp only [accepts, List.length_map, decide_eq_true_eq] at h
  rw [grammar_forget, hbegin, h] at hforget
  obtain ⟨⟨b, g⟩, hrun, hb⟩ := Option.map_eq_some_iff.mp hforget.symm
  obtain rfl : b = true := hb
  exact ⟨g, hrun⟩

end Yac

/-- The parser accepts every sentence and carries out its actions. -/
theorem yyparse_sentence (F : Numerals) (s : Sentence) (c : CommandT) :
    yyparse F s.tokens c = some (true, s.assign F c) := by
  obtain ⟨g, hrun⟩ := exists_runEffect (F := F) _ (accepts_sentenceKinds _ (mem_sentenceKinds s))
  have hg : g = s.assign F := by
    rcases runEffect_accept s.tokens_proper hrun with ⟨s', hs', rfl⟩ | ⟨hs, -⟩
    · rw [Sentence.tokens_injective hs']
    · have hmem := mem_sentenceKinds s
      rw [hs] at hmem
      exact absurd hmem (by decide)
  rw [yyparse, runParser_eq, hrun, hg, Option.map_some]

/-- It also accepts `SetInternalStatus` alone. -/
theorem yyparse_setinternalstatus (F : Numerals) (c : CommandT) :
    yyparse F [word .setinternalstatus] c = some (true, c) := by
  have haccepts : accepts [.setinternalstatus] = true := by decide +kernel
  obtain ⟨g, hrun⟩ := exists_runEffect (F := F) [word .setinternalstatus] haccepts
  have hg : g = id := by
    rcases runEffect_accept (by simp [proper_word]) hrun with ⟨s, hs, -⟩ | ⟨-, hg⟩
    · have hmem := mem_sentenceKinds s
      rw [← hs] at hmem
      exact absurd hmem (by decide)
    · exact hg
  rw [yyparse, runParser_eq, hrun, hg, Option.map_some]
  rfl

/-- All that the parser can do. -/
theorem yyparse_cases (F : Numerals) {toks : List CommandToken} (hu : ∀ t ∈ toks, Proper t) :
    (∃ s : Sentence, toks = s.tokens) ∨ toks = [word .setinternalstatus] ∨
      ∃ g : CommandT → CommandT, ∀ c, yyparse F toks c = some (false, g c) := by
  obtain ⟨⟨b, g⟩, hrun⟩ := Option.isSome_iff_exists.mp (yyparse_isSome F toks)
  cases b with
  | true =>
    rcases runEffect_accept hu hrun with ⟨s, hs, -⟩ | ⟨hs, -⟩
    · exact .inl ⟨s, hs⟩
    · exact .inr (.inl hs)
  | false =>
    refine .inr (.inr ⟨g, fun c => ?_⟩)
    rw [yyparse, runParser_eq, hrun, Option.map_some]

end SledServer
