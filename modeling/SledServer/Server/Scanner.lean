import SledServer.Core.Lex
import SledServer.Server.Grammar

/-!
# The scanner of the commands

`scanner.lex`: the patterns, in their order, with the tokens that their actions return, and
`parser_parse_string`.  A text is the list of its bytes, up to the terminating zero.
-/

namespace SledServer

open Core.Lex Core.Lr

namespace Flex

/-! ## Characters -/

def byte (c : Char) : UInt8 := UInt8.ofNat c.toNat

def bytes (s : String) : List UInt8 := s.toList.map byte

/-- The characters from `a` to `b`. -/
def range (a b : Char) : List UInt8 := (List.range' a.toNat (b.toNat + 1 - a.toNat)).map UInt8.ofNat

def digit : List UInt8 := range '0' '9'

def alpha : List UInt8 := range 'A' 'Z' ++ range 'a' 'z'

/-! ## Patterns -/

/-- `[ \t]` -/
def blank : RegularExpression UInt8 := oneOf [byte ' ', byte '\t']

/-- `\n` -/
def newline : RegularExpression UInt8 := oneOf [byte '\n']

/-- `\-?[0-9]*\.[0-9]+` -/
def float : RegularExpression UInt8 :=
  optional (oneOf [byte '-']) * (oneOf digit).star * oneOf [byte '.'] * many1 (oneOf digit)

/-- `\-?[0-9]+` -/
def int : RegularExpression UInt8 := optional (oneOf [byte '-']) * many1 (oneOf digit)

/-- `\:` -/
def colon : RegularExpression UInt8 := oneOf [byte ':']

/-- `(?i:word)`, for a word of lower case letters. -/
def anyCase (word : String) : RegularExpression UInt8 :=
  spelling (word.toList.map fun c => [byte c, byte c.toUpper])

/-- `[A-Za-z][A-Za-z0-9]*` -/
def string : RegularExpression UInt8 := oneOf alpha * (oneOf (alpha ++ digit)).star

/-! ## Rules -/

abbrev CommandToken := Token Terminal YYSTYPE

/-- The keywords, with their tokens. -/
def keywords : List (String × CommandToken) := [
  ("abs", .postype, .pval .posAbsolute),
  ("reltgt", .postype, .pval .posRelativeTarget),
  ("relact", .postype, .pval .posRelativeActual),
  ("frequencydivisor", .frequencydivisor, .empty),
  ("setbyteorder", .setbyteorder, .empty),
  ("bigendian", .bigendian, .empty),
  ("littleendian", .littleendian, .empty),
  ("sendcurrentframe", .sendcurrentframe, .empty),
  ("streamframes", .streamframes, .empty),
  ("stop", .stop, .empty),
  ("profile", .profile, .empty),
  ("set", .set, .empty),
  ("execute", .execute, .empty),
  ("table", .table, .empty),
  ("next", .next, .empty),
  ("after", .after, .empty),
  ("blend", .blend, .empty),
  ("before", .before, .empty),
  ("sinusoid", .sinusoid, .empty),
  ("rsinusoid", .rsinusoid, .empty),
  ("start", .start, .empty),
  ("lights", .lights, .empty),
  ("on", .on, .empty),
  ("off", .off, .empty),
  ("bye", .bye, .empty),
  ("home", .home, .empty),
  ("clearfault", .clearfault, .empty),
  ("setinternalstatus", .setinternalstatus, .empty),
  ("preoperational", .preoperational, .empty),
  ("operational", .operational, .empty),
  ("outputenabled", .outputenabled, .empty),
  ("sendinternalstatus", .sendinternalstatus, .empty)]

/-- The rules before the keywords. -/
def signs (F : Numerals) : List (LexRule UInt8 CommandToken) := [
  ⟨blank, fun _ => none⟩,
  -- Prints a newline.
  ⟨newline, fun _ => none⟩,
  ⟨float, fun text => some (.float, .fval (F.float (F.atof text)))⟩,
  ⟨int, fun text => some (.int, .ival (F.atoi text))⟩,
  ⟨colon, fun _ => some (.colon, .empty)⟩]

/-- The rules of `scanner.lex`. -/
def rules (F : Numerals) : List (LexRule UInt8 CommandToken) :=
  signs F ++ keywords.map (fun k => ⟨anyCase k.1, fun _ => some k.2⟩) ++
    [⟨string, fun text => some (.string, .sval text)⟩]

end Flex

/-! ## `parser_parse_string` -/

/-- The tokens of a text. -/
def yylex (F : Numerals) (text : List UInt8) : List Flex.CommandToken := scan (Flex.rules F) text

/-- `yyparse`.  The number of steps is enough (`yyparse_isSome`). -/
def yyparse (F : Numerals) (toks : List Flex.CommandToken) (command : CommandT) :
    Option (Bool × CommandT) :=
  runParser (Yac.grammar F) (8 * toks.length + 5) (begin toks) command

/-- `parser_parse_string`: its result, and what it has made of the `command_t` it was given. -/
def parserParseString (F : Numerals) (text : List UInt8) (command : CommandT) : ℤ × CommandT :=
  match yyparse F (yylex F text) command with
  | some (true, command) => (0, command)
  | some (false, command) => (-1, command)
  | none => (-1, command)

end SledServer
