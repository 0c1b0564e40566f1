import SledServer.Core.Lr
import SledServer.Server.Handler

/-!
# The grammar of the commands

`parser.yac`: the tokens, the rules and their actions.  The conversions of numerals are parameters.
-/

namespace SledServer

open Core.Lr

/-! ## Values -/

/-- `status_t`. -/
inductive Status
  | off
  | preoperational
  | operational
  | outputenabled
  deriving DecidableEq, Repr

/-- `command_t` with all its fields. -/
structure CommandT extends Command where
  status : Status

/-- The conversions of numerals: `atoi`, `atof`, and the rounding of a number to a `float`. -/
structure Numerals where
  atoi : List UInt8 → ℤ
  atof : List UInt8 → ℚ
  float : ℚ → ℚ

/-- The semantic values. -/
inductive YYSTYPE
  | empty
  | ival (n : ℤ)
  | fval (x : ℚ)
  | sval (text : List UInt8)
  | pval (type : PositionType)
  deriving DecidableEq, Inhabited

namespace YYSTYPE

/-- The member `ival`. -/
def getI : YYSTYPE → ℤ
  | ival n => n
  | _ => 0

/-- The member `fval`. -/
def getF : YYSTYPE → ℚ
  | fval x => x
  | _ => 0

/-- The member `pval`. -/
def getP : YYSTYPE → PositionType
  | pval type => type
  | _ => .posAbsolute

end YYSTYPE

/-! ## Symbols -/

/-- The tokens. -/
inductive Terminal
  | eof
  | error
  | colon
  | setbyteorder
  | bigendian
  | littleendian
  | sendcurrentframe
  | sendstatus
  | streamframes
  | frequencydivisor
  | stop
  | profile
  | set
  | execute
  | table
  | next
  | after
  | blend
  | before
  | sinusoid
  | rsinusoid
  | start
  | lights
  | on
  | off
  | bye
  | home
  | clearfault
  | setinternalstatus
  | preoperational
  | operational
  | outputenabled
  | sendinternalstatus
  | postype
  | int
  | float
  | string
  deriving DecidableEq, Repr

inductive Nonterminal
  | command
  | number
  | byteorder
  | blendPart
  | afterPart
  | nextPart
  | profilePart
  | profileDefBase
  | profile
  | sendcurrentframe
  | sendstatus
  | streamframes
  | sinusoid
  | rsinusoid
  | lights
  | bye
  | home
  | clearfault
  | setinternalstatus
  | sendinternalstatus
  deriving DecidableEq, Repr

/-! ## Rules -/

namespace Yac

abbrev CommandRule := Rule Terminal Nonterminal YYSTYPE CommandT

/-- A token on the right side of a rule. -/
abbrev tok (t : Terminal) : Symbol Terminal Nonterminal := .terminal t

/-- A nonterminal on the right side of a rule. -/
abbrev non (n : Nonterminal) : Symbol Terminal Nonterminal := .nonterminal n

/-- `$k`. -/
def arg (vs : List YYSTYPE) (k : ℕ) : YYSTYPE := vs.getD (k - 1) .empty

/-- A rule whose action does not set `$$`, which is then `$1`. -/
def action (lhs : Nonterminal) (rhs : List (Symbol Terminal Nonterminal))
    (effect : List YYSTYPE → CommandT → CommandT) : CommandRule :=
  ⟨lhs, rhs, fun vs => arg vs 1, effect⟩

/-- A rule without an action. -/
def plain (lhs : Nonterminal) (rhs : List (Symbol Terminal Nonterminal)) : CommandRule :=
  action lhs rhs fun _ c => c

/-- The rules of `parser.yac`, in their order. -/
def rules (F : Numerals) : List CommandRule := [
  plain .command [non .byteorder],
  plain .command [non .sendcurrentframe],
  plain .command [non .sendstatus],
  plain .command [non .streamframes],
  plain .command [non .profile],
  plain .command [non .sinusoid],
  plain .command [non .rsinusoid],
  plain .command [non .lights],
  plain .command [non .bye],
  plain .command [non .home],
  plain .command [non .clearfault],
  plain .command [non .setinternalstatus],
  plain .command [non .sendinternalstatus],
  ⟨.number, [tok .int], fun vs => .fval (F.float (arg vs 1).getI), fun _ c => c⟩,
  ⟨.number, [tok .float], fun vs => .fval (arg vs 1).getF, fun _ c => c⟩,
  action .byteorder [tok .setbyteorder, tok .bigendian] fun _ c =>
    { c with type := .setbyteorder, byteOrder := .bigEndian },
  action .byteorder [tok .setbyteorder, tok .littleendian] fun _ c =>
    { c with type := .setbyteorder, byteOrder := .littleEndian },
  action .blendPart [tok .blend, tok .before] fun _ c => { c with blendType := .blnBefore },
  action .blendPart [tok .blend, tok .after] fun _ c => { c with blendType := .blnAfter },
  action .afterPart [tok .after, non .number] fun vs c => { c with nextDelay := (arg vs 2).getF },
  action .nextPart [tok .next, tok .int] fun vs c => { c with nextProfile := (arg vs 2).getI },
  action .profilePart [tok .profile, tok .int] fun vs c => { c with profile := (arg vs 2).getI },
  action .profileDefBase
    [tok .set, tok .table, tok .int, tok .postype, non .number, non .number] fun vs c =>
    { c with
      type := .profileSet
      table := (arg vs 3).getI
      positionType := (arg vs 4).getP
      position := (arg vs 5).getF
      time := (arg vs 6).getF },
  action .profile [non .profilePart, tok .execute] fun _ c => { c with type := .profileExecute },
  action .profile [non .profilePart, non .profileDefBase] fun _ c => { c with nextProfile := -1 },
  action .profile [non .profilePart, non .profileDefBase, non .nextPart] fun _ c =>
    { c with blendType := .blnNone },
  action .profile [non .profilePart, non .profileDefBase, non .nextPart, non .afterPart] fun _ c =>
    { c with blendType := .blnNone },
  action .profile [non .profilePart, non .profileDefBase, non .nextPart, non .blendPart] fun _ c =>
    { c with nextDelay := 0 },
  plain .profile
    [non .profilePart, non .profileDefBase, non .nextPart, non .afterPart, non .blendPart],
  action .sendcurrentframe [tok .sendcurrentframe] fun _ c => { c with type := .sendcurrentframe },
  action .sendstatus [tok .sendstatus] fun _ c => { c with type := .sendstatus },
  action .streamframes [tok .streamframes] fun _ c =>
    { c with type := .streamframes, boolean := true },
  action .streamframes [tok .streamframes, tok .frequencydivisor, tok .colon, tok .int] fun _ c =>
    { c with type := .streamframes, boolean := true },
  action .streamframes [tok .streamframes, tok .stop] fun _ c =>
    { c with type := .streamframes, boolean := false },
  action .sinusoid [tok .sinusoid, tok .start, non .number, non .number] fun vs c =>
    { c with
      type := .sinusoid
      boolean := true
      amplitude := (arg vs 3).getF
      period := (arg vs 4).getF },
  action .sinusoid [tok .sinusoid, tok .stop] fun _ c =>
    { c with type := .sinusoid, boolean := false },
  action .rsinusoid [tok .rsinusoid, tok .start, non .number, non .number] fun vs c =>
    { c with
      type := .rsinusoid
      boolean := true
      amplitude := (arg vs 3).getF
      period := (arg vs 4).getF },
  action .rsinusoid [tok .rsinusoid, tok .stop] fun _ c =>
    { c with type := .rsinusoid, boolean := false },
  action .lights [tok .lights, tok .on] fun _ c => { c with type := .lights, boolean := true },
  action .lights [tok .lights, tok .off] fun _ c => { c with type := .lights, boolean := false },
  action .bye [tok .bye] fun _ c => { c with type := .bye },
  action .home [tok .home] fun _ c => { c with type := .home },
  action .clearfault [tok .clearfault] fun _ c => { c with type := .clearfault },
  action .setinternalstatus [tok .setinternalstatus, tok .off] fun _ c =>
    { c with type := .setinternalstatus, status := .off },
  action .setinternalstatus [tok .setinternalstatus, tok .preoperational] fun _ c =>
    { c with type := .setinternalstatus, status := .preoperational },
  action .setinternalstatus [tok .setinternalstatus, tok .operational] fun _ c =>
    { c with type := .setinternalstatus, status := .operational },
  action .setinternalstatus [tok .setinternalstatus, tok .outputenabled] fun _ c =>
    { c with type := .setinternalstatus, status := .outputenabled },
  -- The action calls `yyerror`, which does nothing.
  plain .setinternalstatus [tok .setinternalstatus, tok .error],
  action .sendinternalstatus [tok .sendinternalstatus] fun _ c =>
    { c with type := .sendinternalstatus }]

/-- The grammar of `parser.yac`. -/
def grammar (F : Numerals) : Grammar Terminal Nonterminal YYSTYPE CommandT where
  start := .command
  rules := rules F
  eof := .eof
  error := .error

end Yac

end SledServer
