import SledServer.Server.Parsing

/-!
# Printed commands

How a command can be written: its tokens in order, keywords in upper or lower case letters, with
blanks and tabs between the tokens.  Scanning such a text gives the tokens back (`yylex_printed`),
unless it has `SendStatus` in it, for which the scanner has no rule.
-/

namespace SledServer

open Core.Lex Core.Lr Flex

namespace Flex

/-! ## Lexemes -/

/-- An upper case letter as a lower case one. -/
def toLower (b : UInt8) : UInt8 := if 65 ≤ b ∧ b ≤ 90 then b + 32 else b

/-- `w` is the word, in any mixture of upper and lower case letters. -/
def Spells (word : String) (w : List UInt8) : Prop := w.map toLower = bytes word

instance (word : String) (w : List UInt8) : Decidable (Spells word w) :=
  inferInstanceAs (Decidable (w.map toLower = bytes word))

def IsSign (w : List UInt8) : Prop := w = [] ∨ w = [byte '-']

def IsDigits (w : List UInt8) : Prop := ∀ d ∈ w, d ∈ digit

instance (w : List UInt8) : Decidable (IsDigits w) := List.decidableBAll ..

/-- The numerals of the rule for `INT`. -/
def IsInt (w : List UInt8) : Prop :=
  ∃ sign digits, IsSign sign ∧ IsDigits digits ∧ digits ≠ [] ∧ w = sign ++ digits

/-- The numerals of the rule for `FLOAT`. -/
def IsFloat (w : List UInt8) : Prop :=
  ∃ sign digits decimals, IsSign sign ∧ IsDigits digits ∧ IsDigits decimals ∧ decimals ≠ [] ∧
    w = sign ++ digits ++ byte '.' :: decimals

/-- The keywords of the grammar.  The last one is not known to the scanner. -/
def printedKeywords : List (String × CommandToken) :=
  keywords ++ [("sendstatus", word .sendstatus)]

/-- How a token can be written. -/
inductive Lexeme (F : Numerals) : CommandToken → List UInt8 → Prop
  | keyword {k : String × CommandToken} {w : List UInt8} (hk : k ∈ printedKeywords)
      (hw : Spells k.1 w) : Lexeme F k.2 w
  | int {w : List UInt8} (hw : IsInt w) : Lexeme F (integer (F.atoi w)) w
  | float {w : List UInt8} (hw : IsFloat w) : Lexeme F (.float, .fval (F.float (F.atof w))) w
  | colon : Lexeme F (word .colon) [byte ':']

/-- What stands between two tokens. -/
def IsGap (w : List UInt8) : Prop := w ≠ [] ∧ ∀ b ∈ w, b ∈ [byte ' ', byte '\t']

instance (w : List UInt8) : Decidable (IsGap w) :=
  have : Decidable (∀ b ∈ w, b ∈ [byte ' ', byte '\t']) := List.decidableBAll ..
  inferInstanceAs (Decidable (_ ∧ _))

/-- How a list of tokens can be written. -/
inductive Printed (F : Numerals) : List CommandToken → List UInt8 → Prop
  | one {t : CommandToken} {w : List UInt8} (hw : Lexeme F t w) : Printed F [t] w
  | cons {t : CommandToken} {ts : List CommandToken} {w gap text : List UInt8} (hw : Lexeme F t w)
      (hgap : IsGap gap) (hrest : Printed F ts text) : Printed F (t :: ts) (w ++ gap ++ text)

/-! ## The patterns -/

lemma toLower_eq {b x : UInt8} (h : 97 ≤ x ∧ x ≤ 122) : toLower b = x ↔ b = x ∨ b = x - 32 := by
  unfold toLower
  grind

/-- The letters of the keywords are lower case letters. -/
lemma printedKeywords_lower : ∀ k ∈ printedKeywords, ∀ c ∈ k.1.toList,
    (97 ≤ byte c ∧ byte c ≤ 122) ∧ byte c.toUpper = byte c - 32 := by
  have h : printedKeywords.all fun k => k.1.toList.all fun c =>
      decide ((97 ≤ byte c ∧ byte c ≤ 122) ∧ byte c.toUpper = byte c - 32) := by decide +kernel
  simpa only [List.all_eq_true, decide_eq_true_eq] using h

/-- A keyword is matched in every mixture of upper and lower case. -/
lemma mem_matches'_anyCase {k : String × CommandToken} (hk : k ∈ printedKeywords)
    {w : List UInt8} : w ∈ (anyCase k.1).matches' ↔ Spells k.1 w := by
  have hlower := printedKeywords_lower k hk
  rw [anyCase, mem_matches'_spelling, Spells, bytes]
  generalize k.1.toList = cs at hlower
  induction cs generalizing w with
  | nil => cases w <;> simp
  | cons c cs ih =>
    obtain ⟨⟨hrange, hupper⟩, hcs⟩ := List.forall_mem_cons.mp hlower
    cases w with
    | nil => simp
    | cons b w =>
      rw [List.map_cons, List.forall₂_cons, List.map_cons, List.map_cons, List.cons.injEq]
      refine and_congr ?_ (ih hcs)
      rw [toLower_eq hrange, hupper]
      simp

variable {w : List UInt8}

lemma mem_matches'_sign : w ∈ (optional (oneOf [byte '-'])).matches' ↔ IsSign w := by
  rw [mem_matches'_optional, mem_matches'_oneOf, IsSign]
  simp

lemma mem_matches'_int : w ∈ int.matches' ↔ IsInt w := by
  rw [int, mem_matches'_mul]
  constructor
  · rintro ⟨sign, hsign, digits, hdigits, rfl⟩
    obtain ⟨hne, hdigits⟩ := mem_matches'_many1_oneOf.mp hdigits
    exact ⟨sign, digits, mem_matches'_sign.mp hsign, hdigits, hne, rfl⟩
  · rintro ⟨sign, digits, hsign, hdigits, hne, rfl⟩
    exact ⟨sign, mem_matches'_sign.mpr hsign, digits, mem_matches'_many1_oneOf.mpr ⟨hne, hdigits⟩,
      rfl⟩

lemma mem_matches'_float : w ∈ float.matches' ↔ IsFloat w := by
  simp only [float, mem_matches'_mul]
  constructor
  · rintro ⟨_, ⟨_, ⟨sign, hsign, digits, hdigits, rfl⟩, dot, hdot, rfl⟩, decimals, hdecimals, rfl⟩
    obtain ⟨hne, hdecimals⟩ := mem_matches'_many1_oneOf.mp hdecimals
    obtain ⟨_, hmem, rfl⟩ := mem_matches'_oneOf.mp hdot
    obtain rfl := List.mem_singleton.mp hmem
    refine ⟨sign, digits, decimals, mem_matches'_sign.mp hsign, mem_matches'_star_oneOf.mp hdigits,
      hdecimals, hne, ?_⟩
    simp
  · rintro ⟨sign, digits, decimals, hsign, hdigits, hdecimals, hne, rfl⟩
    refine ⟨_, ⟨_, ⟨sign, mem_matches'_sign.mpr hsign, digits,
      mem_matches'_star_oneOf.mpr hdigits, rfl⟩, [byte '.'], ?_, rfl⟩, decimals,
      mem_matches'_many1_oneOf.mpr ⟨hne, hdecimals⟩, ?_⟩
    · exact mem_matches'_oneOf.mpr ⟨_, List.mem_singleton_self _, rfl⟩
    · simp

/-- A pattern does not match what has a character that does not occur in it. -/
lemma rmatch_eq_false {P : RegularExpression UInt8} {b : UInt8} (hb : b ∈ w) (hP : b ∉ letters P) :
    P.rmatch w = false := by
  rw [Bool.eq_false_iff]
  intro hmatch
  exact hP (mem_letters ((RegularExpression.rmatch_iff_matches' P w).mp hmatch) b hb)

/-! ## The first rule that matches -/

/-- The patterns before those of the keywords. -/
def signPatterns : List (RegularExpression UInt8) := [blank, newline, float, int, colon]

lemma find?_of_unique {β : Type} {l : List β} {p : β → Bool} {a : β} (ha : a ∈ l) (hp : p a = true)
    (hunique : ∀ b ∈ l, p b = true → b = a) : l.find? p = some a := by
  cases hfind : l.find? p with
  | none => exact absurd hp (List.find?_eq_none.mp hfind a ha)
  | some b =>
    rw [hunique b (List.mem_of_find?_eq_some hfind) (List.find?_some hfind)]

variable {F : Numerals}

lemma ruleFor?_signs {b : UInt8} (hb : b ∈ w) (hlower : 97 ≤ toLower b) :
    ruleFor? (signs F) w = none := by
  have hpatterns : ∀ P ∈ signPatterns, ∀ x ∈ letters P, ¬ 97 ≤ toLower x := by decide +kernel
  rw [ruleFor?, List.find?_eq_none]
  intro r hr
  have hmem : r.pattern ∈ (signs F).map (·.pattern) := List.mem_map_of_mem hr
  have hfalse : r.pattern.rmatch w = false :=
    rmatch_eq_false hb fun hx => hpatterns _ hmem b hx hlower
  simp [hfalse]

lemma ruleFor?_append (l₁ l₂ : List (LexRule UInt8 CommandToken)) :
    ruleFor? (l₁ ++ l₂) w = (ruleFor? l₁ w).or (ruleFor? l₂ w) := List.find?_append

/-- A word that is spelled has a letter in it. -/
lemma Spells.letter {k : String × CommandToken} (hk : k ∈ printedKeywords) (hw : Spells k.1 w) :
    ∃ b ∈ w, 97 ≤ toLower b := by
  have hne : ∀ k ∈ printedKeywords, k.1.toList ≠ [] := by decide +kernel
  obtain ⟨c, cs, hcs⟩ := List.exists_cons_of_ne_nil (hne k hk)
  have hmap : w.map toLower = byte c :: cs.map byte := by
    rw [hw, bytes, hcs, List.map_cons]
  obtain ⟨b, w, rfl, hb, -⟩ := List.map_eq_cons_iff.mp hmap
  refine ⟨b, List.mem_cons_self, ?_⟩
  rw [hb]
  exact (printedKeywords_lower k hk c (by simp [hcs])).1.1

/-- No word spells two keywords. -/
lemma Spells.unique {j k : String × CommandToken} (hj : j ∈ printedKeywords)
    (hk : k ∈ printedKeywords) (hwj : Spells j.1 w) (hwk : Spells k.1 w) : j = k := by
  have hall : ∀ j ∈ printedKeywords, ∀ k ∈ printedKeywords, bytes j.1 = bytes k.1 → j = k := by
    decide +kernel
  exact hall j hj k hk (hwj.symm.trans hwk)

lemma mem_printedKeywords {k : String × CommandToken} (hk : k ∈ keywords) : k ∈ printedKeywords :=
  List.mem_append_left _ hk

/-- The rule of a keyword. -/
def keywordRule (k : String × CommandToken) : LexRule UInt8 CommandToken :=
  ⟨anyCase k.1, fun _ => some k.2⟩

lemma rmatch_keywordRule {k : String × CommandToken} (hk : k ∈ printedKeywords) :
    (keywordRule k).pattern.rmatch w = true ↔ Spells k.1 w := by
  rw [← mem_matches'_anyCase hk]
  exact RegularExpression.rmatch_iff_matches' _ _

lemma ruleFor?_keyword {k : String × CommandToken} (hk : k ∈ keywords) (hw : Spells k.1 w) :
    ruleFor? (rules F) w = some (keywordRule k) := by
  have hk' := mem_printedKeywords hk
  obtain ⟨b, hb, hlower⟩ := hw.letter hk'
  have hfind : ruleFor? (keywords.map keywordRule) w = some (keywordRule k) := by
    rw [ruleFor?, List.find?_map, find?_of_unique hk]
    · rfl
    · exact (rmatch_keywordRule hk').mpr hw
    · intro j hj hmatch
      have hj' := mem_printedKeywords hj
      exact ((rmatch_keywordRule hj').mp hmatch).unique hj' hk' hw
  have hrules : rules F = signs F ++ (keywords.map keywordRule ++
      [⟨string, fun text => some (.string, .sval text)⟩]) := List.append_assoc ..
  rw [hrules, ruleFor?_append, ruleFor?_append, ruleFor?_signs hb hlower, hfind]
  rfl

lemma mem_range {x : UInt8} {a b : Char} (h : a.toNat ≤ x.toNat ∧ x.toNat ≤ b.toNat) :
    x ∈ range a b := by
  refine List.mem_map.mpr ⟨x.toNat, ?_, UInt8.ofNat_toNat⟩
  rw [List.mem_range'_1]
  omega

lemma mem_alpha {x : UInt8} (h : 97 ≤ toLower x ∧ toLower x ≤ 122) : x ∈ alpha := by
  have hcases : (65 ≤ x ∧ x ≤ 90) ∨ (97 ≤ x ∧ x ≤ 122) := by
    unfold toLower at h
    grind
  simp only [UInt8.le_iff_toNat_le] at hcases
  rcases hcases with hx | hx
  · exact List.mem_append_left _ (mem_range hx)
  · exact List.mem_append_right _ (mem_range hx)

/-- The scanner takes `SendStatus` for a string. -/
lemma ruleFor?_sendstatus (hw : Spells "sendstatus" w) :
    ruleFor? (rules F) w = some ⟨string, fun text => some (.string, .sval text)⟩ := by
  have hk : ("sendstatus", word .sendstatus) ∈ printedKeywords :=
    List.mem_append_right _ (List.mem_singleton_self _)
  obtain ⟨b, hb, hlower⟩ := Spells.letter hk hw
  have hfind : ruleFor? (keywords.map keywordRule) w = none := by
    rw [ruleFor?, List.find?_map, Option.map_eq_none_iff, List.find?_eq_none]
    intro j hj hmatch
    have hj' := mem_printedKeywords hj
    obtain rfl := Spells.unique hj' hk ((rmatch_keywordRule hj').mp hmatch) hw
    exact absurd hj (by decide +kernel)
  have hstring : string.rmatch w = true := by
    have halpha : ∀ b ∈ w, b ∈ alpha := by
      intro b hb
      have hmem : toLower b ∈ bytes "sendstatus" := hw ▸ List.mem_map_of_mem hb
      obtain ⟨c, hc, hbc⟩ := List.mem_map.mp hmem
      obtain ⟨hrange, -⟩ := printedKeywords_lower _ hk c hc
      exact mem_alpha (hbc ▸ hrange)
    obtain ⟨c, cs, rfl⟩ := List.exists_cons_of_ne_nil (List.ne_nil_of_mem hb)
    rw [RegularExpression.rmatch_iff_matches', string, mem_matches'_mul]
    refine ⟨[c], mem_matches'_oneOf.mpr ⟨c, halpha c List.mem_cons_self, rfl⟩, cs,
      mem_matches'_star_oneOf.mpr fun d hd => ?_, rfl⟩
    exact List.mem_append_left _ (halpha d (List.mem_cons_of_mem _ hd))
  have hrules : rules F = signs F ++ (keywords.map keywordRule ++
      [⟨string, fun text => some (.string, .sval text)⟩]) := List.append_assoc ..
  rw [hrules, ruleFor?_append, ruleFor?_append, ruleFor?_signs hb hlower, hfind]
  simp [ruleFor?, hstring]

/-! ### Numerals -/

lemma ruleFor?_float (hw : IsFloat w) : ruleFor? (rules F) w =
    some ⟨float, fun text => some (.float, .fval (F.float (F.atof text)))⟩ := by
  have hdot : byte '.' ∈ w := by
    obtain ⟨sign, digits, decimals, -, -, -, -, rfl⟩ := hw
    simp
  have hblank : blank.rmatch w = false := rmatch_eq_false hdot (by decide +kernel)
  have hnewline : newline.rmatch w = false := rmatch_eq_false hdot (by decide +kernel)
  have hfloat : float.rmatch w = true :=
    (RegularExpression.rmatch_iff_matches' _ _).mpr (mem_matches'_float.mpr hw)
  simp [ruleFor?, rules, signs, hblank, hnewline, hfloat]

lemma ruleFor?_int (hw : IsInt w) :
    ruleFor? (rules F) w = some ⟨int, fun text => some (.int, .ival (F.atoi text))⟩ := by
  have hfloat : float.rmatch w = false := by
    rw [Bool.eq_false_iff]
    intro hmatch
    obtain ⟨_, _, _, -, -, -, -, hfloat⟩ :=
      mem_matches'_float.mp ((RegularExpression.rmatch_iff_matches' _ _).mp hmatch)
    have hdot : byte '.' ∈ w := by simp [hfloat]
    exact absurd (mem_letters (mem_matches'_int.mpr hw) _ hdot) (by decide +kernel)
  have hint : int.rmatch w = true :=
    (RegularExpression.rmatch_iff_matches' _ _).mpr (mem_matches'_int.mpr hw)
  obtain ⟨sign, digits, -, hdigits, hne, rfl⟩ := hw
  obtain ⟨d, ds, rfl⟩ := List.exists_cons_of_ne_nil hne
  have hd : d ∈ sign ++ d :: ds := by simp
  have hdigit : d ∈ digit := hdigits d List.mem_cons_self
  have hneither : ∀ d ∈ digit, d ∉ letters blank ∧ d ∉ letters newline := by decide +kernel
  have hblank : blank.rmatch (sign ++ d :: ds) = false := rmatch_eq_false hd (hneither d hdigit).1
  have hnewline : newline.rmatch (sign ++ d :: ds) = false :=
    rmatch_eq_false hd (hneither d hdigit).2
  simp [ruleFor?, rules, signs, hblank, hnewline, hfloat, hint]

lemma ruleFor?_colon :
    ruleFor? (rules F) [byte ':'] = some ⟨colon, fun _ => some (.colon, .empty)⟩ := by
  have hsigns : signPatterns.map (·.rmatch [byte ':']) = [false, false, false, false, true] := by
    decide +kernel
  simp only [signPatterns, List.map_cons, List.map_nil, List.cons.injEq, and_true] at hsigns
  obtain ⟨hblank, hnewline, hfloat, hint, hcolon⟩ := hsigns
  simp [ruleFor?, rules, signs, hblank, hnewline, hfloat, hint, hcolon]

/-! ## Scanning -/

/-- The patterns other than that of the blanks. -/
def darkPatterns : List (RegularExpression UInt8) :=
  [newline, float, int, colon] ++ keywords.map (fun k => anyCase k.1) ++ [string]

lemma patterns_eq : (rules F).map (·.pattern) = blank :: darkPatterns := by
  simp [rules, signs, darkPatterns]

lemma separates_blank {b : UInt8} (hb : b ∈ [byte ' ', byte '\t']) : Separates (rules F) b := by
  have hdark : ∀ b ∈ [byte ' ', byte '\t'], ∀ P ∈ darkPatterns, b ∉ letters P := by
    decide +kernel
  intro w hsome hbw
  obtain ⟨r, hr⟩ := Option.isSome_iff_exists.mp hsome
  obtain ⟨hmem, hmatch⟩ := ruleFor?_eq_some hr
  have hmem : r.pattern ∈ (rules F).map (·.pattern) := List.mem_map_of_mem hmem
  rw [patterns_eq] at hmem
  rcases List.mem_cons.mp hmem with hblank | hother
  · rw [hblank] at hmatch
    obtain ⟨c, -, rfl⟩ := mem_matches'_oneOf.mp hmatch
    rw [List.mem_singleton.mp hbw]
  · exact absurd (mem_letters hmatch b hbw) (hdark b hb _ hother)

lemma ruleFor?_blank {b : UInt8} (hb : b ∈ [byte ' ', byte '\t']) :
    ruleFor? (rules F) [b] = some ⟨blank, fun _ => none⟩ := by
  have hblank : blank.rmatch [b] = true :=
    (RegularExpression.rmatch_iff_matches' _ _).mpr (mem_matches'_oneOf.mpr ⟨b, hb, rfl⟩)
  simp [ruleFor?, rules, signs, hblank]

/-- Nothing comes of a gap. -/
lemma scan_gap {gap text : List UInt8} (h : ∀ b ∈ gap, b ∈ [byte ' ', byte '\t']) :
    scan (rules F) (gap ++ text) = scan (rules F) text := by
  induction gap with
  | nil => rfl
  | cons b gap ih =>
    obtain ⟨hb, hgap⟩ := List.forall_mem_cons.mp h
    rw [List.cons_append, scan_separator (separates_blank hb) (ruleFor?_blank hb), ih hgap]
    rfl

lemma Lexeme.ruleFor? {t : CommandToken} (h : Lexeme F t w) (ht : t ≠ word .sendstatus) :
    ∃ r, Core.Lex.ruleFor? (rules F) w = some r ∧ r.action w = some t := by
  cases h with
  | keyword hk hw =>
    rcases List.mem_append.mp hk with hk | hk
    · exact ⟨_, ruleFor?_keyword hk hw, rfl⟩
    · obtain rfl := List.mem_singleton.mp hk
      exact absurd rfl ht
  | int hw => exact ⟨_, ruleFor?_int hw, rfl⟩
  | float hw => exact ⟨_, ruleFor?_float hw, rfl⟩
  | colon => exact ⟨_, ruleFor?_colon, rfl⟩

lemma Lexeme.ne_nil {t : CommandToken} (h : Lexeme F t w) : w ≠ [] := by
  cases h with
  | keyword hk hw =>
    obtain ⟨b, hb, -⟩ := hw.letter hk
    exact List.ne_nil_of_mem hb
  | int hw =>
    obtain ⟨sign, digits, -, -, hne, rfl⟩ := hw
    simp [hne]
  | float hw =>
    obtain ⟨sign, digits, decimals, -, -, -, -, rfl⟩ := hw
    simp
  | colon => simp

end Flex

/-- The scanner reads what has been printed. -/
theorem yylex_printed {F : Numerals} {ts : List CommandToken} {text : List UInt8}
    (h : Printed F ts text) (hts : word .sendstatus ∉ ts) : yylex F text = ts := by
  induction h with
  | @one t w hw =>
    obtain ⟨r, hr, hact⟩ := hw.ruleFor? (by simpa [eq_comm] using hts)
    rw [yylex, scan_whole hw.ne_nil hr, hact]
    rfl
  | @cons t ts w gap text hw hgap _ ih =>
    rw [List.mem_cons, not_or] at hts
    obtain ⟨r, hr, hact⟩ := hw.ruleFor? (Ne.symm hts.1)
    have hhead : ∀ b ∈ (gap ++ text).head?, Separates (rules F) b := by
      obtain ⟨b, gap, rfl⟩ := List.exists_cons_of_ne_nil hgap.1
      rintro b' hb'
      obtain rfl : b = b' := by simpa using hb'
      exact separates_blank (hgap.2 b List.mem_cons_self)
    rw [yylex, List.append_assoc, scan_separated hw.ne_nil hr hhead, hact, scan_gap hgap.2,
      ← yylex, ih hts.2]
    rfl

end SledServer
