import Mathlib.Computability.RegularExpressions

/-!
# Scanning by the longest match

The scanner that Flex makes of a list of patterns.  Of all patterns that match a beginning of the
text it takes one with the longest match, and among these the first; what no pattern matches is
skipped, one character at a time.

`scan_separated` reads a lexeme off the front of a text: if a rule is the first to match it and no
rule can match past the end of it.

Nothing here mentions a particular scanner.
-/

namespace SledServer.Core.Lex

variable {α τ : Type}

/-! ## Patterns -/

section Patterns

open RegularExpression

/-- `[...]`. -/
def oneOf (cs : List α) : RegularExpression α := cs.foldr (fun c P => char c + P) 0

/-- `P?`. -/
def optional (P : RegularExpression α) : RegularExpression α := 1 + P

/-- `P+`. -/
def many1 (P : RegularExpression α) : RegularExpression α := P * P.star

/-- The characters of a word one after the other, each of them one of several. -/
def spelling (css : List (List α)) : RegularExpression α := css.foldr (fun cs P => oneOf cs * P) 1

/-- The characters that occur in a pattern. -/
def letters : RegularExpression α → List α
  | .zero => []
  | .epsilon => []
  | .char a => [a]
  | .plus P Q => letters P ++ letters Q
  | .comp P Q => letters P ++ letters Q
  | .star P => letters P

variable {w : List α}

lemma mem_matches'_char {a : α} : w ∈ (char a).matches' ↔ w = [a] := Iff.rfl

lemma mem_matches'_oneOf {cs : List α} : w ∈ (oneOf cs).matches' ↔ ∃ c ∈ cs, w = [c] := by
  induction cs with
  | nil => simp [oneOf]
  | cons c cs ih =>
    have hcons : oneOf (c :: cs) = char c + oneOf cs := rfl
    rw [hcons, matches'_add, Language.mem_add, ih, mem_matches'_char]
    simp

lemma mem_matches'_optional {P : RegularExpression α} :
    w ∈ (optional P).matches' ↔ w = [] ∨ w ∈ P.matches' := by
  simp [optional, Language.mem_add]

lemma mem_matches'_mul {P Q : RegularExpression α} :
    w ∈ (P * Q).matches' ↔ ∃ u ∈ P.matches', ∃ v ∈ Q.matches', u ++ v = w := by
  rw [matches'_mul, Language.mem_mul]

lemma mem_matches'_star_oneOf {cs : List α} :
    w ∈ (oneOf cs).star.matches' ↔ ∀ c ∈ w, c ∈ cs := by
  rw [matches'_star, Language.mem_kstar]
  constructor
  · rintro ⟨ws, rfl, hws⟩ c hc
    obtain ⟨v, hv, hcv⟩ := List.mem_flatten.mp hc
    obtain ⟨d, hd, rfl⟩ := mem_matches'_oneOf.mp (hws v hv)
    rw [List.mem_singleton.mp hcv]
    exact hd
  · intro hw
    refine ⟨w.map fun c => [c], ?_, ?_⟩
    · simp [← List.flatMap_def]
    · intro v hv
      obtain ⟨c, hc, rfl⟩ := List.mem_map.mp hv
      exact mem_matches'_oneOf.mpr ⟨c, hw c hc, rfl⟩

lemma mem_matches'_many1_oneOf {cs : List α} :
    w ∈ (many1 (oneOf cs)).matches' ↔ w ≠ [] ∧ ∀ c ∈ w, c ∈ cs := by
  rw [many1, mem_matches'_mul]
  constructor
  · rintro ⟨u, hu, v, hv, rfl⟩
    obtain ⟨c, hc, rfl⟩ := mem_matches'_oneOf.mp hu
    refine ⟨by simp, fun d hd => ?_⟩
    rcases List.mem_cons.mp hd with rfl | hd
    · exact hc
    · exact mem_matches'_star_oneOf.mp hv d hd
  · rintro ⟨hne, hw⟩
    cases w with
    | nil => exact absurd rfl hne
    | cons c w =>
      refine ⟨[c], mem_matches'_oneOf.mpr ⟨c, hw c List.mem_cons_self, rfl⟩, w, ?_, rfl⟩
      exact mem_matches'_star_oneOf.mpr fun d hd => hw d (List.mem_cons_of_mem _ hd)

lemma mem_matches'_spelling {css : List (List α)} :
    w ∈ (spelling css).matches' ↔ List.Forall₂ (fun c cs => c ∈ cs) w css := by
  induction css generalizing w with
  | nil => simp [spelling]
  | cons cs css ih =>
    have hcons : spelling (cs :: css) = oneOf cs * spelling css := rfl
    rw [hcons, mem_matches'_mul]
    constructor
    · rintro ⟨u, hu, v, hv, rfl⟩
      obtain ⟨c, hc, rfl⟩ := mem_matches'_oneOf.mp hu
      exact .cons hc (ih.mp hv)
    · intro hw
      cases hw with
      | @cons c _ v _ hc hv =>
        exact ⟨[c], mem_matches'_oneOf.mpr ⟨c, hc, rfl⟩, v, ih.mpr hv, rfl⟩

/-- A pattern only matches words over its characters. -/
lemma mem_letters {P : RegularExpression α} (h : w ∈ P.matches') : ∀ c ∈ w, c ∈ letters P := by
  induction P generalizing w with
  | zero => exact absurd h (by simp [matches'])
  | epsilon =>
    obtain rfl : w = [] := by simpa [matches'] using h
    simp
  | char a =>
    obtain rfl := mem_matches'_char.mp h
    simp [letters]
  | plus P Q ihP ihQ =>
    intro c hc
    rcases h with h | h
    · exact List.mem_append_left _ (ihP h c hc)
    · exact List.mem_append_right _ (ihQ h c hc)
  | comp P Q ihP ihQ =>
    obtain ⟨u, hu, v, hv, rfl⟩ := h
    intro c hc
    rcases List.mem_append.mp hc with hc | hc
    · exact List.mem_append_left _ (ihP hu c hc)
    · exact List.mem_append_right _ (ihQ hv c hc)
  | star P ih =>
    obtain ⟨ws, rfl, hws⟩ := Language.mem_kstar.mp h
    intro c hc
    obtain ⟨v, hv, hcv⟩ := List.mem_flatten.mp hc
    exact ih (hws v hv) c hcv

end Patterns

/-! ## The scanner -/

/-- A pattern, and the token that its action returns for the text that it has matched, if any. -/
structure LexRule (α τ : Type) where
  pattern : RegularExpression α
  action : List α → Option τ

section Scanner

variable [DecidableEq α] (rules : List (LexRule α τ))

/-- The first rule that matches the whole of `w`. -/
def ruleFor? (w : List α) : Option (LexRule α τ) := rules.find? fun r => r.pattern.rmatch w

/-- The rule that is applied to a text, and how much it matches, up to `n` characters. -/
def longest? : ℕ → List α → Option (LexRule α τ × ℕ)
  | 0, _ => none
  | n + 1, text =>
    match ruleFor? rules (text.take (n + 1)) with
    | some r => some (r, n + 1)
    | none => longest? n text

/-- The tokens of a text, in at most `n` steps. -/
def scanAt : ℕ → List α → List τ
  | 0, _ => []
  | n + 1, text =>
    match longest? rules text.length text with
    | some (r, k) => (r.action (text.take k)).toList ++ scanAt n (text.drop k)
    | none => scanAt n text.tail

/-- The tokens of a text. -/
def scan (text : List α) : List τ := scanAt rules text.length text

variable {rules} {text w rest : List α} {r : LexRule α τ} {k : ℕ}

lemma ruleFor?_eq_some (h : ruleFor? rules w = some r) : r ∈ rules ∧ w ∈ r.pattern.matches' := by
  unfold ruleFor? at h
  have hmatch := List.find?_some h
  exact ⟨List.mem_of_find?_eq_some h, (RegularExpression.rmatch_iff_matches' _ _).mp hmatch⟩

lemma longest?_le {n : ℕ} (h : longest? rules n text = some (r, k)) :
    0 < k ∧ k ≤ n ∧ ruleFor? rules (text.take k) = some r := by
  induction n with
  | zero => simp [longest?] at h
  | succ n ih =>
    unfold longest? at h
    split at h
    next r' hr' =>
      cases h
      exact ⟨by omega, le_rfl, hr'⟩
    · obtain ⟨hpos, hle, hr⟩ := ih h
      exact ⟨hpos, by omega, hr⟩

/-- Any number of steps is enough that is not less than the length of the text. -/
lemma scanAt_eq_scan {n : ℕ} (h : text.length ≤ n) : scanAt rules n text = scan rules text := by
  suffices hall : ∀ m n : ℕ, ∀ text : List α, text.length ≤ m → text.length ≤ n →
      scanAt rules m text = scanAt rules n text from hall _ _ text h le_rfl
  intro m
  induction m with
  | zero =>
    intro n text hm hn
    obtain rfl := List.length_eq_zero_iff.mp (by omega : text.length = 0)
    induction n with
    | zero => rfl
    | succ n ih =>
      rw [ih (by simp)]
      simp [scanAt, longest?]
  | succ m ih =>
    intro n text hm hn
    cases n with
    | zero =>
      obtain rfl := List.length_eq_zero_iff.mp (by omega : text.length = 0)
      have htail := ih 0 [] (by simp) le_rfl
      simpa [scanAt, longest?] using htail
    | succ n =>
      unfold scanAt
      split
      next r k hk =>
        obtain ⟨hpos, -, -⟩ := longest?_le hk
        rw [ih n (text.drop k) (by simp; omega) (by simp; omega)]
      · exact ih n text.tail (by simp; omega) (by simp; omega)

lemma scan_of_longest? (h : longest? rules text.length text = some (r, k)) :
    scan rules text = (r.action (text.take k)).toList ++ scan rules (text.drop k) := by
  obtain ⟨hpos, hle, -⟩ := longest?_le h
  cases hlen : text.length with
  | zero => omega
  | succ n =>
    have hdrop : scanAt rules n (text.drop k) = scan rules (text.drop k) :=
      scanAt_eq_scan (by simp; omega)
    rw [scan, hlen, scanAt, h]
    simp only [hdrop]

@[simp] lemma scan_nil : scan rules [] = [] := rfl

/-- A rule that matches `w`, and no rule that matches more. -/
lemma longest?_eq {n : ℕ} (hlen : w.length ≤ n) (hw : w ≠ []) (htext : text.take w.length = w)
    (hr : ruleFor? rules w = some r)
    (hmore : ∀ m, w.length < m → m ≤ n → ruleFor? rules (text.take m) = none) :
    longest? rules n text = some (r, w.length) := by
  induction n with
  | zero => exact absurd (List.length_eq_zero_iff.mp (by omega : w.length = 0)) hw
  | succ n ih =>
    unfold longest?
    by_cases heq : w.length = n + 1
    · rw [← heq, htext, hr]
    · rw [hmore (n + 1) (by omega) le_rfl]
      exact ih (by omega) fun m hm hle => hmore m hm (by omega)

/-- The rules keep away from `b`: they match it alone or not at all. -/
def Separates (rules : List (LexRule α τ)) (b : α) : Prop :=
  ∀ w, (ruleFor? rules w).isSome = true → b ∈ w → w = [b]

/-- A lexeme that ends where the text ends or a separator comes is scanned as such. -/
theorem scan_separated (hw : w ≠ []) (hr : ruleFor? rules w = some r)
    (hrest : ∀ b ∈ rest.head?, Separates rules b) :
    scan rules (w ++ rest) = (r.action w).toList ++ scan rules rest := by
  have hlongest : longest? rules (w ++ rest).length (w ++ rest) = some (r, w.length) := by
    refine longest?_eq (by simp) hw (by simp) hr fun m hm hle => ?_
    cases rest with
    | nil =>
      simp at hle
      omega
    | cons b rest =>
      by_contra hsome
      have hb : b ∈ (w ++ b :: rest).take m := by
        rw [List.take_append, List.mem_append]
        refine .inr ?_
        obtain ⟨d, hd⟩ := Nat.exists_eq_add_of_lt hm
        rw [hd, show w.length + d + 1 - w.length = d + 1 by omega]
        simp
      have hone := hrest b rfl _ (Option.isSome_iff_ne_none.mpr hsome) hb
      have hlen := congrArg List.length hone
      have hpos := List.length_pos_of_ne_nil hw
      simp at hlen hle
      omega
  rw [scan_of_longest? hlongest]
  simp

/-- A text that is a lexeme is scanned as such. -/
theorem scan_whole (hw : w ≠ []) (hr : ruleFor? rules w = some r) :
    scan rules w = (r.action w).toList := by
  have hscan : scan rules (w ++ []) = (r.action w).toList ++ scan rules [] :=
    scan_separated hw hr (by simp)
  rwa [List.append_nil, scan_nil, List.append_nil] at hscan

/-- A separator is scanned alone, whatever comes after it. -/
theorem scan_separator {b : α} (hb : Separates rules b) (hr : ruleFor? rules [b] = some r) :
    scan rules (b :: rest) = (r.action [b]).toList ++ scan rules rest := by
  have hlongest : longest? rules (b :: rest).length (b :: rest) = some (r, [b].length) := by
    refine longest?_eq (by simp) (by simp) rfl hr fun m hm hle => ?_
    by_contra hsome
    obtain ⟨d, rfl⟩ := Nat.exists_eq_add_of_lt hm
    have hone := hb _ (Option.isSome_iff_ne_none.mpr hsome) (by simp)
    have hlen := congrArg List.length hone
    simp only [List.length_take, List.length_cons, List.length_nil] at hlen hle
    omega
  rw [scan_of_longest? hlongest]
  simp

/-- The tokens of a text come from the actions of the rules. -/
lemma mem_scan {token : τ} (h : token ∈ scan rules text) :
    ∃ r ∈ rules, ∃ w, r.action w = some token := by
  suffices hall : ∀ n text, token ∈ scanAt rules n text → ∃ r ∈ rules, ∃ w, r.action w = some token
    from hall _ _ h
  intro n
  induction n with
  | zero => simp [scanAt]
  | succ n ih =>
    intro text h
    unfold scanAt at h
    split at h
    next r k hlongest =>
      rcases List.mem_append.mp h with h | h
      · obtain ⟨-, -, hr⟩ := longest?_le hlongest
        exact ⟨r, (ruleFor?_eq_some hr).1, _, Option.mem_toList.mp h⟩
      · exact ih _ h
    · exact ih _ h

end Scanner

end SledServer.Core.Lex
