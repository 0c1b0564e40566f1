import SledServer.Server.Scanner

/-!
# The sentences of the grammar

The commands that `parser.yac` derives, as a type, with their tokens and with what their actions do
to the `command_t`.  The parser accepts these sentences and one text more: the keyword
`SetInternalStatus` alone, which it recovers from without an action (`yyparse_cases`).
-/

namespace SledServer

open Core.Lr

/-! ## Sentences -/

/-- A numeral for a number. -/
inductive Numeral
  | int (n : ℤ)
  | float (x : ℚ)
  deriving DecidableEq

/-- The end of a blend part. -/
inductive Blend
  | before
  | after
  deriving DecidableEq

/-- What comes behind the definition of a profile. -/
structure NextPart where
  next : ℤ
  after : Option Numeral
  blend : Option Blend
  deriving DecidableEq

/-- The sentences of the grammar. -/
inductive Sentence
  | byteorder (order : ByteOrder)
  | sendcurrentframe
  | sendstatus
  | streamframes
  | frequencydivisor (n : ℤ)
  | streamframesStop
  | profileExecute (profile : ℤ)
  | profileSet (profile table : ℤ) (type : PositionType) (position time : Numeral)
      (next : Option NextPart)
  | sinusoidStart (amplitude period : Numeral)
  | sinusoidStop
  | rsinusoidStart (amplitude period : Numeral)
  | rsinusoidStop
  | lights (on : Bool)
  | bye
  | home
  | clearfault
  | setinternalstatus (status : Status)
  | sendinternalstatus
  deriving DecidableEq

/-! ### Tokens -/

namespace Flex

def word (t : Terminal) : CommandToken := (t, .empty)

def integer (n : ℤ) : CommandToken := (.int, .ival n)

/-- The values that the scanner gives to its tokens. -/
def Proper (token : CommandToken) : Prop :=
  match token.1 with
  | .eof | .error => False
  | .int => ∃ n, token.2 = .ival n
  | .float => ∃ x, token.2 = .fval x
  | .postype => ∃ type, token.2 = .pval type
  | .string => True
  | _ => token.2 = .empty

end Flex

open Flex

def Numeral.token : Numeral → CommandToken
  | int n => integer n
  | float x => (.float, .fval x)

/-- The value of the numeral as a `float`. -/
def Numeral.value (F : Numerals) : Numeral → ℚ
  | int n => F.float n
  | float x => x

def Blend.tokens : Blend → List CommandToken
  | before => [word .blend, word .before]
  | after => [word .blend, word .after]

def Blend.type : Blend → BlendType
  | before => .blnBefore
  | after => .blnAfter

def NextPart.tokens (p : NextPart) : List CommandToken :=
  [word .next, integer p.next] ++
    (p.after.map fun x => [word .after, x.token]).getD [] ++ (p.blend.map Blend.tokens).getD []

def Status.terminal : Status → Terminal
  | off => .off
  | preoperational => .preoperational
  | operational => .operational
  | outputenabled => .outputenabled

lemma Numeral.token_injective : Function.Injective Numeral.token := by
  intro x y h
  cases x <;> cases y <;> simp_all [Numeral.token, integer]

lemma Flex.proper_word {t : Terminal} :
    Proper (word t) ↔ t ∉ [.eof, .error, .int, .float, .postype] := by
  cases t <;> simp [Proper, word]

lemma Flex.proper_integer (n : ℤ) : Proper (integer n) := ⟨n, rfl⟩

lemma Flex.proper_postype (type : PositionType) : Proper (.postype, .pval type) := ⟨type, rfl⟩

lemma Numeral.token_proper : ∀ x : Numeral, Proper x.token
  | int n => ⟨n, rfl⟩
  | float x => ⟨x, rfl⟩

lemma Status.terminal_injective : Function.Injective Status.terminal := by
  intro x y h
  cases x <;> cases y <;> simp_all [Status.terminal]

lemma NextPart.tokens_injective (x y : Option NextPart)
    (h : (x.map NextPart.tokens).getD [] = (y.map NextPart.tokens).getD []) : x = y := by
  obtain _ | ⟨n, _ | a, _ | (_ | _)⟩ := x <;> obtain _ | ⟨m, _ | b, _ | (_ | _)⟩ := y <;>
    simp_all [NextPart.tokens, Blend.tokens, word, integer, Numeral.token_injective.eq_iff]

namespace Sentence

def tokens : Sentence → List CommandToken
  | byteorder .bigEndian => [word .setbyteorder, word .bigendian]
  | byteorder .littleEndian => [word .setbyteorder, word .littleendian]
  | sendcurrentframe => [word .sendcurrentframe]
  | sendstatus => [word .sendstatus]
  | streamframes => [word .streamframes]
  | frequencydivisor n => [word .streamframes, word .frequencydivisor, word .colon, integer n]
  | streamframesStop => [word .streamframes, word .stop]
  | profileExecute profile => [word .profile, integer profile, word .execute]
  | profileSet profile table type position time next =>
    [word .profile, integer profile, word .set, word .table, integer table, (.postype, .pval type),
      position.token, time.token] ++ (next.map NextPart.tokens).getD []
  | sinusoidStart amplitude period =>
    [word .sinusoid, word .start, amplitude.token, period.token]
  | sinusoidStop => [word .sinusoid, word .stop]
  | rsinusoidStart amplitude period =>
    [word .rsinusoid, word .start, amplitude.token, period.token]
  | rsinusoidStop => [word .rsinusoid, word .stop]
  | lights on => [word .lights, word (if on then .on else .off)]
  | bye => [word .bye]
  | home => [word .home]
  | clearfault => [word .clearfault]
  | setinternalstatus status => [word .setinternalstatus, word status.terminal]
  | sendinternalstatus => [word .sendinternalstatus]

/-- The grammar is unambiguous. -/
theorem tokens_injective : Function.Injective Sentence.tokens := by
  intro s t h
  cases s with
  | profileSet profile table type position time next =>
    cases t with
    | profileSet profile' table' type' position' time' next' =>
      simp only [tokens, List.cons_append, List.nil_append, List.cons.injEq, integer,
        Prod.mk.injEq, YYSTYPE.ival.injEq, YYSTYPE.pval.injEq, true_and,
        Numeral.token_injective.eq_iff] at h
      obtain ⟨rfl, rfl, rfl, rfl, rfl, hnext⟩ := h
      rw [NextPart.tokens_injective _ _ hnext]
    | byteorder order => cases order <;> simp [tokens, word] at h
    | _ => simp [tokens, word] at h
  | byteorder order =>
    cases t with
    | byteorder order' => cases order <;> cases order' <;> simp_all [tokens, word]
    | _ => cases order <;> simp [tokens, word] at h
  | lights on =>
    cases t with
    | byteorder order' => cases order' <;> simp [tokens, word] at h
    | lights on' => cases on <;> cases on' <;> simp_all [tokens, word]
    | _ => simp [tokens, word] at h
  | _ =>
    cases t with
    | byteorder order' => cases order' <;> simp [tokens, word] at h
    | _ =>
      simp_all [tokens, word, integer, Numeral.token_injective.eq_iff,
        Status.terminal_injective.eq_iff]

lemma tokens_proper (s : Sentence) : ∀ t ∈ s.tokens, Proper t := by
  cases s with
  | byteorder order => cases order <;> simp [tokens, proper_word]
  | lights on => cases on <;> simp [tokens, proper_word]
  | setinternalstatus status => cases status <;> simp [tokens, proper_word, Status.terminal]
  | profileSet profile table type position time next =>
    obtain _ | ⟨n, _ | a, _ | (_ | _)⟩ := next <;>
      simp [tokens, NextPart.tokens, Blend.tokens, proper_word, proper_postype, proper_integer,
        Numeral.token_proper]
  | _ => simp [tokens, proper_word, proper_integer, Numeral.token_proper]

/-! ### Commands -/

/-- What the actions of the sentence do to the `command_t`. -/
def assign (F : Numerals) : Sentence → CommandT → CommandT
  | byteorder order, c => { c with type := .setbyteorder, byteOrder := order }
  | sendcurrentframe, c => { c with type := .sendcurrentframe }
  | sendstatus, c => { c with type := .sendstatus }
  | streamframes, c => { c with type := .streamframes, boolean := true }
  | frequencydivisor _, c => { c with type := .streamframes, boolean := true }
  | streamframesStop, c => { c with type := .streamframes, boolean := false }
  | profileExecute profile, c => { c with type := .profileExecute, profile := profile }
  | profileSet profile table type position time next, c =>
    let c : CommandT := { c with
      type := .profileSet
      profile := profile
      table := table
      positionType := type
      position := position.value F
      time := time.value F }
    match next with
    | none => { c with nextProfile := -1 }
    | some ⟨next, none, none⟩ => { c with nextProfile := next, blendType := .blnNone }
    | some ⟨next, some delay, none⟩ =>
      { c with nextProfile := next, nextDelay := delay.value F, blendType := .blnNone }
    | some ⟨next, none, some blend⟩ =>
      { c with nextProfile := next, nextDelay := 0, blendType := blend.type }
    | some ⟨next, some delay, some blend⟩ =>
      { c with nextProfile := next, nextDelay := delay.value F, blendType := blend.type }
  | sinusoidStart amplitude period, c =>
    { c with
      type := .sinusoid
      boolean := true
      amplitude := amplitude.value F
      period := period.value F }
  | sinusoidStop, c => { c with type := .sinusoid, boolean := false }
  | rsinusoidStart amplitude period, c =>
    { c with
      type := .rsinusoid
      boolean := true
      amplitude := amplitude.value F
      period := period.value F }
  | rsinusoidStop, c => { c with type := .rsinusoid, boolean := false }
  | lights on, c => { c with type := .lights, boolean := on }
  | bye, c => { c with type := .bye }
  | home, c => { c with type := .home }
  | clearfault, c => { c with type := .clearfault }
  | setinternalstatus status, c => { c with type := .setinternalstatus, status := status }
  | sendinternalstatus, c => { c with type := .sendinternalstatus }

end Sentence

/-! ## What the grammar derives -/

namespace Yac

section Derivations

variable {F : Numerals} {n : Nonterminal} {t : Terminal} {Xs : List (Symbol Terminal Nonterminal)}
  {u : List CommandToken} {v : YYSTYPE} {vs : List YYSTYPE} {f g : CommandT → CommandT}

/-! ### One symbol at a time -/

lemma derives_tok (h : DerivesAll (grammar F) (tok t :: Xs) u vs g) (hu : ∀ t ∈ u, Proper t) :
    ∃ w u' vs', u = (t, w) :: u' ∧ vs = w :: vs' ∧ Proper (t, w) ∧
      DerivesAll (grammar F) Xs u' vs' g ∧ ∀ t ∈ u', Proper t := by
  obtain ⟨_, u', w, vs', _, _, rfl, rfl, rfl, ht, hs⟩ := derivesAll_cons.mp h
  obtain ⟨rfl, rfl⟩ := derives_terminal.mp ht
  obtain ⟨hw, hu'⟩ := List.forall_mem_cons.mp hu
  exact ⟨w, u', vs', rfl, rfl, hw, hs, hu'⟩

lemma derives_non (h : DerivesAll (grammar F) (non n :: Xs) u vs g) (hu : ∀ t ∈ u, Proper t) :
    ∃ u₁ u₂ v ws f₁ f₂, u = u₁ ++ u₂ ∧ vs = v :: ws ∧ g = f₂ ∘ f₁ ∧
      (Derives (grammar F) (non n) u₁ v f₁ ∧ ∀ t ∈ u₁, Proper t) ∧
      DerivesAll (grammar F) Xs u₂ ws f₂ ∧ ∀ t ∈ u₂, Proper t := by
  obtain ⟨u₁, u₂, v, ws, f₁, f₂, rfl, rfl, rfl, hn, hs⟩ := derivesAll_cons.mp h
  obtain ⟨hu₁, hu₂⟩ := List.forall_mem_append.mp hu
  exact ⟨u₁, u₂, v, ws, f₁, f₂, rfl, rfl, rfl, ⟨hn, hu₁⟩, hs, hu₂⟩

lemma derives_number (h : Derives (grammar F) (non .number) u v f) (hu : ∀ t ∈ u, Proper t) :
    ∃ x : Numeral, u = [x.token] ∧ v = .fval (x.value F) ∧ f = id := by
  obtain ⟨r, hr, vs, g, hall, rfl, rfl⟩ := derives_nonterminal.mp h
  change r ∈ [_, _] at hr
  simp only [List.mem_cons, List.not_mem_nil, or_false] at hr
  rcases hr with rfl | rfl
  · obtain ⟨_, _, _, rfl, rfl, ⟨n, rfl⟩, hall, -⟩ := derives_tok hall hu
    obtain ⟨rfl, rfl, rfl⟩ := derivesAll_nil.mp hall
    exact ⟨.int n, rfl, rfl, rfl⟩
  · obtain ⟨_, _, _, rfl, rfl, ⟨x, rfl⟩, hall, -⟩ := derives_tok hall hu
    obtain ⟨rfl, rfl, rfl⟩ := derivesAll_nil.mp hall
    exact ⟨.float x, rfl, rfl, rfl⟩

lemma derives_numeral (h : DerivesAll (grammar F) (non .number :: Xs) u vs g)
    (hu : ∀ t ∈ u, Proper t) : ∃ (x : Numeral) (u' : List CommandToken) (vs' : List YYSTYPE),
      u = x.token :: u' ∧ vs = .fval (x.value F) :: vs' ∧
        DerivesAll (grammar F) Xs u' vs' g ∧ ∀ t ∈ u', Proper t := by
  obtain ⟨_, u', _, vs', _, _, rfl, rfl, rfl, ⟨hn, hn'⟩, hs, hu'⟩ := derives_non h hu
  obtain ⟨x, rfl, rfl, rfl⟩ := derives_number hn hn'
  exact ⟨x, u', vs', rfl, rfl, hs, hu'⟩

/-- A token whose value says nothing. -/
def IsWord (t : Terminal) : Prop := ∀ w, Proper (t, w) → w = .empty

lemma derives_words (ts : List Terminal) (h : DerivesAll (grammar F) (ts.map tok) u vs g)
    (hu : ∀ t ∈ u, Proper t) (hts : ∀ t ∈ ts, IsWord t) : u = ts.map word ∧ g = id := by
  induction ts generalizing u vs with
  | nil =>
    obtain ⟨rfl, -, rfl⟩ := derivesAll_nil.mp h
    exact ⟨rfl, rfl⟩
  | cons t ts ih =>
    obtain ⟨ht, hts⟩ := List.forall_mem_cons.mp hts
    obtain ⟨w, u, vs, rfl, rfl, hw, hs, hu⟩ := derives_tok h hu
    obtain ⟨rfl, rfl⟩ := ih hs hu hts
    rw [ht w hw]
    exact ⟨rfl, rfl⟩

/-! ### The parts of a profile -/

lemma derives_blendPart (h : Derives (grammar F) (non .blendPart) u v f)
    (hu : ∀ t ∈ u, Proper t) :
    ∃ b : Blend, u = b.tokens ∧ f = fun c => { c with blendType := b.type } := by
  obtain ⟨r, hr, vs, g, hall, -, rfl⟩ := derives_nonterminal.mp h
  change r ∈ [_, _] at hr
  simp only [List.mem_cons, List.not_mem_nil, or_false] at hr
  rcases hr with rfl | rfl
  · obtain ⟨rfl, rfl⟩ := derives_words [.blend, .before] hall hu (by simp [IsWord, Proper])
    exact ⟨.before, rfl, rfl⟩
  · obtain ⟨rfl, rfl⟩ := derives_words [.blend, .after] hall hu (by simp [IsWord, Proper])
    exact ⟨.after, rfl, rfl⟩

lemma derives_afterPart (h : Derives (grammar F) (non .afterPart) u v f)
    (hu : ∀ t ∈ u, Proper t) :
    ∃ x : Numeral, u = [word .after, x.token] ∧ f = fun c => { c with nextDelay := x.value F } := by
  obtain ⟨r, hr, vs, g, hall, -, rfl⟩ := derives_nonterminal.mp h
  obtain rfl := List.mem_singleton.mp hr
  obtain ⟨_, _, _, rfl, rfl, rfl, hall, hu⟩ := derives_tok hall hu
  obtain ⟨x, _, _, rfl, rfl, hall, -⟩ := derives_numeral hall hu
  obtain ⟨rfl, rfl, rfl⟩ := derivesAll_nil.mp hall
  exact ⟨x, rfl, rfl⟩

lemma derives_nextPart (h : Derives (grammar F) (non .nextPart) u v f) (hu : ∀ t ∈ u, Proper t) :
    ∃ n, u = [word .next, integer n] ∧ f = fun c => { c with nextProfile := n } := by
  obtain ⟨r, hr, vs, g, hall, -, rfl⟩ := derives_nonterminal.mp h
  obtain rfl := List.mem_singleton.mp hr
  obtain ⟨_, _, _, rfl, rfl, rfl, hall, hu⟩ := derives_tok hall hu
  obtain ⟨_, _, _, rfl, rfl, ⟨n, rfl⟩, hall, -⟩ := derives_tok hall hu
  obtain ⟨rfl, rfl, rfl⟩ := derivesAll_nil.mp hall
  exact ⟨n, rfl, rfl⟩

lemma derives_profilePart (h : Derives (grammar F) (non .profilePart) u v f)
    (hu : ∀ t ∈ u, Proper t) :
    ∃ n, u = [word .profile, integer n] ∧ f = fun c => { c with profile := n } := by
  obtain ⟨r, hr, vs, g, hall, -, rfl⟩ := derives_nonterminal.mp h
  obtain rfl := List.mem_singleton.mp hr
  obtain ⟨_, _, _, rfl, rfl, rfl, hall, hu⟩ := derives_tok hall hu
  obtain ⟨_, _, _, rfl, rfl, ⟨n, rfl⟩, hall, -⟩ := derives_tok hall hu
  obtain ⟨rfl, rfl, rfl⟩ := derivesAll_nil.mp hall
  exact ⟨n, rfl, rfl⟩

lemma derives_profileDefBase (h : Derives (grammar F) (non .profileDefBase) u v f)
    (hu : ∀ t ∈ u, Proper t) : ∃ (table : ℤ) (type : PositionType) (position time : Numeral),
      u = [word .set, word .table, integer table, (.postype, .pval type), position.token,
        time.token] ∧
      f = fun c => { c with
        type := .profileSet
        table := table
        positionType := type
        position := position.value F
        time := time.value F } := by
  obtain ⟨r, hr, vs, g, hall, -, rfl⟩ := derives_nonterminal.mp h
  obtain rfl := List.mem_singleton.mp hr
  obtain ⟨_, _, _, rfl, rfl, rfl, hall, hu⟩ := derives_tok hall hu
  obtain ⟨_, _, _, rfl, rfl, rfl, hall, hu⟩ := derives_tok hall hu
  obtain ⟨_, _, _, rfl, rfl, ⟨table, rfl⟩, hall, hu⟩ := derives_tok hall hu
  obtain ⟨_, _, _, rfl, rfl, ⟨type, rfl⟩, hall, hu⟩ := derives_tok hall hu
  obtain ⟨position, _, _, rfl, rfl, hall, hu⟩ := derives_numeral hall hu
  obtain ⟨time, _, _, rfl, rfl, hall, -⟩ := derives_numeral hall hu
  obtain ⟨rfl, rfl, rfl⟩ := derivesAll_nil.mp hall
  exact ⟨table, type, position, time, rfl, rfl⟩

lemma derives_profile (h : Derives (grammar F) (non .profile) u v f) (hu : ∀ t ∈ u, Proper t) :
    ∃ s : Sentence, u = s.tokens ∧ f = s.assign F := by
  obtain ⟨r, hr, vs, g, hall, -, rfl⟩ := derives_nonterminal.mp h
  change r ∈ [_, _, _, _, _, _] at hr
  simp only [List.mem_cons, List.not_mem_nil, or_false] at hr
  have hrhs : r.rhs = non .profilePart :: r.rhs.tail := by
    rcases hr with rfl | rfl | rfl | rfl | rfl | rfl <;> rfl
  rw [hrhs] at hall
  obtain ⟨_, _, _, _, _, _, rfl, rfl, rfl, ⟨hpart, hpart'⟩, hdef, hudef⟩ := derives_non hall hu
  obtain ⟨profile, rfl, rfl⟩ := derives_profilePart hpart hpart'
  rcases hr with rfl | hr
  · obtain ⟨rfl, rfl⟩ := derives_words [.execute] hdef hudef (by simp [IsWord, Proper])
    exact ⟨.profileExecute profile, rfl, rfl⟩
  have hrhs' : r.rhs.tail = non .profileDefBase :: r.rhs.tail.tail := by
    rcases hr with rfl | rfl | rfl | rfl | rfl <;> rfl
  rw [hrhs'] at hdef
  obtain ⟨_, _, _, _, _, _, rfl, rfl, rfl, ⟨hbase, hbase'⟩, hnext, hunext⟩ := derives_non hdef hudef
  obtain ⟨table, type, position, time, rfl, rfl⟩ := derives_profileDefBase hbase hbase'
  rcases hr with rfl | hr
  · obtain ⟨rfl, rfl, rfl⟩ := derivesAll_nil.mp hnext
    exact ⟨.profileSet profile table type position time none, rfl, rfl⟩
  have hrhs'' : r.rhs.tail.tail = non .nextPart :: r.rhs.tail.tail.tail := by
    rcases hr with rfl | rfl | rfl | rfl <;> rfl
  rw [hrhs''] at hnext
  obtain ⟨_, _, _, _, _, _, rfl, rfl, rfl, ⟨hpart, hpart'⟩, hend, huend⟩ := derives_non hnext hunext
  obtain ⟨next, rfl, rfl⟩ := derives_nextPart hpart hpart'
  rcases hr with rfl | rfl | rfl | rfl
  · obtain ⟨rfl, rfl, rfl⟩ := derivesAll_nil.mp hend
    exact ⟨.profileSet profile table type position time (some ⟨next, none, none⟩), rfl, rfl⟩
  · obtain ⟨_, _, _, _, _, _, rfl, rfl, rfl, ⟨hafter, hafter'⟩, hnil, -⟩ := derives_non hend huend
    obtain ⟨delay, rfl, rfl⟩ := derives_afterPart hafter hafter'
    obtain ⟨rfl, rfl, rfl⟩ := derivesAll_nil.mp hnil
    exact ⟨.profileSet profile table type position time (some ⟨next, some delay, none⟩), rfl, rfl⟩
  · obtain ⟨_, _, _, _, _, _, rfl, rfl, rfl, ⟨hblend, hblend'⟩, hnil, -⟩ := derives_non hend huend
    obtain ⟨blend, rfl, rfl⟩ := derives_blendPart hblend hblend'
    obtain ⟨rfl, rfl, rfl⟩ := derivesAll_nil.mp hnil
    refine ⟨.profileSet profile table type position time (some ⟨next, none, some blend⟩), ?_, rfl⟩
    cases blend <;> rfl
  · obtain ⟨_, _, _, _, _, _, rfl, rfl, rfl, ⟨hafter, hafter'⟩, hlast, hulast⟩ :=
      derives_non hend huend
    obtain ⟨delay, rfl, rfl⟩ := derives_afterPart hafter hafter'
    obtain ⟨_, _, _, _, _, _, rfl, rfl, rfl, ⟨hblend, hblend'⟩, hnil, -⟩ :=
      derives_non hlast hulast
    obtain ⟨blend, rfl, rfl⟩ := derives_blendPart hblend hblend'
    obtain ⟨rfl, rfl, rfl⟩ := derivesAll_nil.mp hnil
    refine ⟨.profileSet profile table type position time (some ⟨next, some delay, some blend⟩), ?_,
      rfl⟩
    cases blend <;> rfl

/-! ### The other commands -/

lemma derives_byteorder (h : Derives (grammar F) (non .byteorder) u v f)
    (hu : ∀ t ∈ u, Proper t) : ∃ s : Sentence, u = s.tokens ∧ f = s.assign F := by
  obtain ⟨r, hr, vs, g, hall, -, rfl⟩ := derives_nonterminal.mp h
  change r ∈ [_, _] at hr
  simp only [List.mem_cons, List.not_mem_nil, or_false] at hr
  rcases hr with rfl | rfl
  · obtain ⟨rfl, rfl⟩ :=
      derives_words [.setbyteorder, .bigendian] hall hu (by simp [IsWord, Proper])
    exact ⟨.byteorder .bigEndian, rfl, rfl⟩
  · obtain ⟨rfl, rfl⟩ :=
      derives_words [.setbyteorder, .littleendian] hall hu (by simp [IsWord, Proper])
    exact ⟨.byteorder .littleEndian, rfl, rfl⟩

lemma derives_streamframes (h : Derives (grammar F) (non .streamframes) u v f)
    (hu : ∀ t ∈ u, Proper t) : ∃ s : Sentence, u = s.tokens ∧ f = s.assign F := by
  obtain ⟨r, hr, vs, g, hall, -, rfl⟩ := derives_nonterminal.mp h
  change r ∈ [_, _, _] at hr
  simp only [List.mem_cons, List.not_mem_nil, or_false] at hr
  rcases hr with rfl | rfl | rfl
  · obtain ⟨rfl, rfl⟩ := derives_words [.streamframes] hall hu (by simp [IsWord, Proper])
    exact ⟨.streamframes, rfl, rfl⟩
  · obtain ⟨_, _, _, rfl, rfl, rfl, hall, hu⟩ := derives_tok hall hu
    obtain ⟨_, _, _, rfl, rfl, rfl, hall, hu⟩ := derives_tok hall hu
    obtain ⟨_, _, _, rfl, rfl, rfl, hall, hu⟩ := derives_tok hall hu
    obtain ⟨_, _, _, rfl, rfl, ⟨n, rfl⟩, hall, -⟩ := derives_tok hall hu
    obtain ⟨rfl, rfl, rfl⟩ := derivesAll_nil.mp hall
    exact ⟨.frequencydivisor n, rfl, rfl⟩
  · obtain ⟨rfl, rfl⟩ := derives_words [.streamframes, .stop] hall hu (by simp [IsWord, Proper])
    exact ⟨.streamframesStop, rfl, rfl⟩

lemma derives_sinusoid (h : Derives (grammar F) (non .sinusoid) u v f) (hu : ∀ t ∈ u, Proper t) :
    ∃ s : Sentence, u = s.tokens ∧ f = s.assign F := by
  obtain ⟨r, hr, vs, g, hall, -, rfl⟩ := derives_nonterminal.mp h
  change r ∈ [_, _] at hr
  simp only [List.mem_cons, List.not_mem_nil, or_false] at hr
  rcases hr with rfl | rfl
  · obtain ⟨_, _, _, rfl, rfl, rfl, hall, hu⟩ := derives_tok hall hu
    obtain ⟨_, _, _, rfl, rfl, rfl, hall, hu⟩ := derives_tok hall hu
    obtain ⟨amplitude, _, _, rfl, rfl, hall, hu⟩ := derives_numeral hall hu
    obtain ⟨period, _, _, rfl, rfl, hall, -⟩ := derives_numeral hall hu
    obtain ⟨rfl, rfl, rfl⟩ := derivesAll_nil.mp hall
    exact ⟨.sinusoidStart amplitude period, rfl, rfl⟩
  · obtain ⟨rfl, rfl⟩ := derives_words [.sinusoid, .stop] hall hu (by simp [IsWord, Proper])
    exact ⟨.sinusoidStop, rfl, rfl⟩

lemma derives_rsinusoid (h : Derives (grammar F) (non .rsinusoid) u v f)
    (hu : ∀ t ∈ u, Proper t) : ∃ s : Sentence, u = s.tokens ∧ f = s.assign F := by
  obtain ⟨r, hr, vs, g, hall, -, rfl⟩ := derives_nonterminal.mp h
  change r ∈ [_, _] at hr
  simp only [List.mem_cons, List.not_mem_nil, or_false] at hr
  rcases hr with rfl | rfl
  · obtain ⟨_, _, _, rfl, rfl, rfl, hall, hu⟩ := derives_tok hall hu
    obtain ⟨_, _, _, rfl, rfl, rfl, hall, hu⟩ := derives_tok hall hu
    obtain ⟨amplitude, _, _, rfl, rfl, hall, hu⟩ := derives_numeral hall hu
    obtain ⟨period, _, _, rfl, rfl, hall, -⟩ := derives_numeral hall hu
    obtain ⟨rfl, rfl, rfl⟩ := derivesAll_nil.mp hall
    exact ⟨.rsinusoidStart amplitude period, rfl, rfl⟩
  · obtain ⟨rfl, rfl⟩ := derives_words [.rsinusoid, .stop] hall hu (by simp [IsWord, Proper])
    exact ⟨.rsinusoidStop, rfl, rfl⟩

lemma derives_lights (h : Derives (grammar F) (non .lights) u v f) (hu : ∀ t ∈ u, Proper t) :
    ∃ s : Sentence, u = s.tokens ∧ f = s.assign F := by
  obtain ⟨r, hr, vs, g, hall, -, rfl⟩ := derives_nonterminal.mp h
  change r ∈ [_, _] at hr
  simp only [List.mem_cons, List.not_mem_nil, or_false] at hr
  rcases hr with rfl | rfl
  · obtain ⟨rfl, rfl⟩ := derives_words [.lights, .on] hall hu (by simp [IsWord, Proper])
    exact ⟨.lights true, rfl, rfl⟩
  · obtain ⟨rfl, rfl⟩ := derives_words [.lights, .off] hall hu (by simp [IsWord, Proper])
    exact ⟨.lights false, rfl, rfl⟩

/-- The scanner does not return `error`, so that no derivation uses the rule with it. -/
lemma derives_setinternalstatus (h : Derives (grammar F) (non .setinternalstatus) u v f)
    (hu : ∀ t ∈ u, Proper t) : ∃ s : Sentence, u = s.tokens ∧ f = s.assign F := by
  obtain ⟨r, hr, vs, g, hall, -, rfl⟩ := derives_nonterminal.mp h
  change r ∈ [_, _, _, _, _] at hr
  simp only [List.mem_cons, List.not_mem_nil, or_false] at hr
  have hrhs : r.rhs = tok .setinternalstatus :: r.rhs.tail := by
    rcases hr with rfl | rfl | rfl | rfl | rfl <;> rfl
  rw [hrhs] at hall
  obtain ⟨_, _, _, rfl, rfl, rfl, hall, hu⟩ := derives_tok hall hu
  rcases hr with rfl | rfl | rfl | rfl | rfl
  · obtain ⟨rfl, rfl⟩ := derives_words [.off] hall hu (by simp [IsWord, Proper])
    exact ⟨.setinternalstatus .off, rfl, rfl⟩
  · obtain ⟨rfl, rfl⟩ := derives_words [.preoperational] hall hu (by simp [IsWord, Proper])
    exact ⟨.setinternalstatus .preoperational, rfl, rfl⟩
  · obtain ⟨rfl, rfl⟩ := derives_words [.operational] hall hu (by simp [IsWord, Proper])
    exact ⟨.setinternalstatus .operational, rfl, rfl⟩
  · obtain ⟨rfl, rfl⟩ := derives_words [.outputenabled] hall hu (by simp [IsWord, Proper])
    exact ⟨.setinternalstatus .outputenabled, rfl, rfl⟩
  · obtain ⟨_, _, _, rfl, rfl, herror, -, -⟩ := derives_tok hall hu
    exact herror.elim

/-- The commands that are one keyword. -/
lemma derives_keyword (s : Sentence) {t : Terminal} (hs : s.tokens = [word t]) (ht : IsWord t)
    (hrules : (grammar F).rules.filter (·.lhs = n) = [action n [tok t] fun _ => s.assign F])
    (h : Derives (grammar F) (non n) u v f) (hu : ∀ t ∈ u, Proper t) :
    ∃ s : Sentence, u = s.tokens ∧ f = s.assign F := by
  obtain ⟨r, hr, vs, g, hall, -, rfl⟩ := derives_nonterminal.mp h
  rw [hrules] at hr
  obtain rfl := List.mem_singleton.mp hr
  obtain ⟨rfl, rfl⟩ := derives_words [t] hall hu (by simpa using ht)
  exact ⟨s, hs.symm, rfl⟩

/-- What the grammar derives are the sentences. -/
theorem derives_command (h : Derives (grammar F) (non .command) u v f) (hu : ∀ t ∈ u, Proper t) :
    ∃ s : Sentence, u = s.tokens ∧ f = s.assign F := by
  obtain ⟨r, hr, vs, g, hall, -, rfl⟩ := derives_nonterminal.mp h
  have hrhs : ∃ n, r = plain .command [non n] ∧ n ∈ [.byteorder, .sendcurrentframe, .sendstatus,
      .streamframes, .profile, .sinusoid, .rsinusoid, .lights, .bye, .home, .clearfault,
      .setinternalstatus, Nonterminal.sendinternalstatus] := by
    change r ∈ [_, _, _, _, _, _, _, _, _, _, _, _, _] at hr
    simp only [List.mem_cons, List.not_mem_nil, or_false] at hr
    rcases hr with rfl | rfl | rfl | rfl | rfl | rfl | rfl | rfl | rfl | rfl | rfl | rfl | rfl <;>
      exact ⟨_, rfl, by decide⟩
  obtain ⟨n, rfl, hn⟩ := hrhs
  obtain ⟨u, _, v, _, f, _, rfl, rfl, rfl, ⟨hn', hproper⟩, hnil, -⟩ := derives_non hall hu
  obtain ⟨rfl, rfl, rfl⟩ := derivesAll_nil.mp hnil
  rw [List.append_nil]
  show ∃ s : Sentence, u = s.tokens ∧ f = s.assign F
  simp only [List.mem_cons, List.not_mem_nil, or_false] at hn
  rcases hn with rfl | rfl | rfl | rfl | rfl | rfl | rfl | rfl | rfl | rfl | rfl | rfl | rfl
  · exact derives_byteorder hn' hproper
  · exact derives_keyword .sendcurrentframe rfl (by simp [IsWord, Proper]) rfl hn' hproper
  · exact derives_keyword .sendstatus rfl (by simp [IsWord, Proper]) rfl hn' hproper
  · exact derives_streamframes hn' hproper
  · exact derives_profile hn' hproper
  · exact derives_sinusoid hn' hproper
  · exact derives_rsinusoid hn' hproper
  · exact derives_lights hn' hproper
  · exact derives_keyword .bye rfl (by simp [IsWord, Proper]) rfl hn' hproper
  · exact derives_keyword .home rfl (by simp [IsWord, Proper]) rfl hn' hproper
  · exact derives_keyword .clearfault rfl (by simp [IsWord, Proper]) rfl hn' hproper
  · exact derives_setinternalstatus hn' hproper
  · exact derives_keyword .sendinternalstatus rfl (by simp [IsWord, Proper]) rfl hn' hproper

end Derivations

end Yac

end SledServer
