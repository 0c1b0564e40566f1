import Mathlib.Algebra.Ring.Int.Defs
import Mathlib.Data.List.Basic
import Mathlib.Tactic.Common

/-!
# The tables of the motion profiles

`create_profile.py`, the script that prints the tables for the drive.  A table is a header and a row
for each point, and the row of the point with the highest index ends in a semicolon.  The positions
and accelerations are computed in floating point; here they are the integers that are printed.

`tables_delimited_iff` says when the semicolons stand at the ends of the tables: the reversed table
begins with the point of the highest index.
-/

namespace SledServer.Tools

/-! ## Printing -/

abbrev Text := List Char

/-- `print`, of one line. -/
def print (line : Text) : Text := line ++ ['\n']

/-- `"{:d}".format(n)`, and `"{:0.0f}".format(n)` of an integer. -/
def decimal (n : ℤ) : Text :=
  if n < 0 then '-' :: Nat.toDigits 10 n.natAbs else Nat.toDigits 10 n.natAbs

/-- `"{:d},{:d}".format(s, a)` -/
def row (s a : ℤ) : Text := decimal s ++ ',' :: decimal a

/-- The loop that all the functions share, over the points in some order. -/
def dumpPoints (npoints : ℕ) (line : ℕ → Text) (r : List ℕ) : Text :=
  r.flatMap fun i =>
    if i = npoints - 1 then print (line i ++ [';']) else print (line i)

/-- The line before the rows. -/
def header : Text := ['0', ',', ' ']

/-- `dump_rsinusoid` -/
def dumpRsinusoid (npoints : ℕ) (s a : ℕ → ℤ) (reverse : Bool) : Text :=
  print header ++
    if !reverse then
      dumpPoints npoints (fun i => row (s i) (a i)) (List.range npoints)
    else
      dumpPoints npoints (fun i => row (2 ^ 31 - s i) (-a i)) (List.range npoints).reverse

/-- `dump_sinusoid` -/
def dumpSinusoid (npoints : ℕ) (s a : ℕ → ℤ) : Text :=
  print header ++ dumpPoints npoints (fun i => row (s i) (a i)) (List.range npoints)

/-- `dump_min_jerk` -/
def dumpMinJerk (npoints : ℕ) (s a : ℕ → ℤ) : Text :=
  print header ++ dumpPoints npoints (fun i => row (s i) (a i)) (List.range npoints)

/-- The function that is called. -/
inductive Profile
  | sinusoid
  | rsinusoid (reverse : Bool)
  | minJerk
  deriving DecidableEq, Repr

/-- A call of one of the functions, with the integers that it computes for each point. -/
structure Dump where
  profile : Profile
  npoints : ℕ
  s : ℕ → ℤ
  a : ℕ → ℤ
  two_le : 2 ≤ npoints

namespace Dump

variable (d : Dump)

/-- What the call prints. -/
def text : Text :=
  match d.profile with
  | .sinusoid => dumpSinusoid d.npoints d.s d.a
  | .rsinusoid reverse => dumpRsinusoid d.npoints d.s d.a reverse
  | .minJerk => dumpMinJerk d.npoints d.s d.a

/-- The call of `dump_rsinusoid` with `reverse=True`. -/
def Reversed : Prop := d.profile = .rsinusoid true

instance : Decidable d.Reversed := inferInstanceAs (Decidable (d.profile = .rsinusoid true))

/-! ## Tables -/

/-- The points in the order in which they are printed. -/
def order : List ℕ :=
  if d.Reversed then (List.range d.npoints).reverse else List.range d.npoints

/-- What is printed for a point, without the semicolon. -/
def line (i : ℕ) : Text :=
  if d.Reversed then row (2 ^ 31 - d.s i) (-d.a i) else row (d.s i) (d.a i)

/-- The table of a call: the header and the rows in the order printed. -/
def table : List Text := header :: d.order.map d.line

/-- The text is a header line and a row for each point, of which the last and only the last ends in
a semicolon. -/
def Delimited : Prop :=
  ∃ rows : List Text, d.text.splitOn '\n' = header :: rows ++ [[]] ∧ rows.length = d.npoints ∧
    ∀ i row, rows[i]? = some row → (row.getLast? = some ';' ↔ i + 1 = d.npoints)

end Dump

/-- The lines of a text that are not blank. -/
def linesOf (text : Text) : List Text := (text.splitOn '\n').filter (· ≠ [])

/-- The lines of each part of a text that is cut at the semicolons. -/
def pieces (text : Text) : List (List Text) := (text.splitOn ';').map linesOf

/-! ## Rows -/

section Rows

variable {n s a : ℤ} {c : Char}

lemma mem_decimal (h : c ∈ decimal n) : c.isDigit = true ∨ c = '-' := by
  unfold decimal at h
  split at h
  · rcases List.mem_cons.mp h with rfl | h
    · exact .inr rfl
    · exact .inl (Nat.isDigit_of_mem_toDigits (by decide) (by decide) h)
  · exact .inl (Nat.isDigit_of_mem_toDigits (by decide) (by decide) h)

/-- The characters of a row. -/
lemma mem_row (h : c ∈ row s a) : c.isDigit = true ∨ c = '-' ∨ c = ',' := by
  rcases List.mem_append.mp h with h | h
  · exact (mem_decimal h).imp_right .inl
  · rcases List.mem_cons.mp h with rfl | h
    · exact .inr (.inr rfl)
    · exact (mem_decimal h).imp_right .inl

lemma newline_notMem_row : '\n' ∉ row s a := fun h => absurd (mem_row h) (by decide)

lemma semicolon_notMem_row : ';' ∉ row s a := fun h => absurd (mem_row h) (by decide)

lemma row_ne_nil : row s a ≠ [] := by simp [row]

end Rows

/-! ## Splitting what was printed -/

section Splitting

variable {lines : List Text}

/-- Lines that have been printed are split again. -/
lemma splitOn_print (h : ∀ line ∈ lines, '\n' ∉ line) (rest : Text) :
    (lines.flatMap print ++ rest).splitOn '\n' = lines ++ rest.splitOn '\n' := by
  induction lines with
  | nil => rfl
  | cons line lines ih =>
    have hline := h line List.mem_cons_self
    have hrest := ih fun l hl => h l (List.mem_cons_of_mem _ hl)
    rw [List.flatMap_cons, print, List.append_assoc, List.append_assoc, List.singleton_append,
      List.splitOn_append_cons_self_of_not_mem hline, hrest]
    rfl

lemma linesOf_of_notMem {line : Text} (h : '\n' ∉ line) (hne : line ≠ []) :
    linesOf line = [line] := by
  rw [linesOf, List.splitOn_eq_singleton h]
  simp [hne]

lemma linesOf_print (h : ∀ line ∈ lines, '\n' ∉ line) (hne : ∀ line ∈ lines, line ≠ [])
    (rest : Text) : linesOf (lines.flatMap print ++ rest) = lines ++ linesOf rest := by
  have hkeep : lines.filter (· ≠ []) = lines :=
    List.filter_eq_self.mpr fun line hl => decide_eq_true (hne line hl)
  rw [linesOf, splitOn_print h, List.filter_append, hkeep, linesOf]

lemma linesOf_newline (text : Text) : linesOf ('\n' :: text) = linesOf text := by
  rw [linesOf, List.splitOn_cons_eq_if_modifyHead]
  cases h : text.splitOn '\n' <;> simp [linesOf, h]

/-- The newline after a semicolon does not matter. -/
lemma pieces_newline (text : Text) : pieces ('\n' :: text) = pieces text := by
  rw [pieces, List.splitOn_cons_eq_if_modifyHead, pieces]
  cases h : text.splitOn ';' with
  | nil => rfl
  | cons piece rest => simp [linesOf_newline]

lemma pieces_semicolon {piece : Text} (h : ';' ∉ piece) (text : Text) :
    pieces (piece ++ ';' :: text) = linesOf piece :: pieces text := by
  rw [pieces, List.splitOn_append_cons_self_of_not_mem h, List.map_cons, pieces]

end Splitting

/-! ## What a call prints -/

namespace Dump

variable {d : Dump} {i : ℕ}

lemma npoints_eq (d : Dump) : ∃ m, d.npoints = m + 2 := ⟨d.npoints - 2, by have := d.two_le; omega⟩

lemma newline_notMem_line : '\n' ∉ d.line i := by
  unfold line
  split <;> exact newline_notMem_row

lemma semicolon_notMem_line : ';' ∉ d.line i := by
  unfold line
  split <;> exact semicolon_notMem_row

lemma line_ne_nil : d.line i ≠ [] := by
  unfold line
  split <;> exact row_ne_nil

/-- What is printed for a point. -/
def printed (d : Dump) (i : ℕ) : Text :=
  if i = d.npoints - 1 then d.line i ++ [';'] else d.line i

lemma printed_of_ne (h : i ≠ d.npoints - 1) : d.printed i = d.line i := if_neg h

/-- The semicolon follows the point of the highest index. -/
lemma getLast?_printed : (d.printed i).getLast? = some ';' ↔ i = d.npoints - 1 := by
  unfold printed
  split
  · next h => simp [h]
  · next h =>
    refine iff_of_false (fun hlast => ?_) h
    exact semicolon_notMem_line (List.mem_of_getLast? hlast)

lemma newline_notMem_printed : '\n' ∉ d.printed i := by
  unfold printed
  split
  · simp [newline_notMem_line]
  · exact newline_notMem_line

/-- Each call prints the header and then its points, in its order. -/
lemma text_eq_dumpPoints (d : Dump) :
    d.text = print header ++ dumpPoints d.npoints d.line d.order := by
  obtain ⟨profile, npoints, s, a, two_le⟩ := d
  cases profile with
  | sinusoid => rfl
  | rsinusoid reverse => cases reverse <;> rfl
  | minJerk => rfl

lemma text_eq (d : Dump) : d.text = (header :: d.order.map d.printed).flatMap print := by
  rw [text_eq_dumpPoints, dumpPoints, List.flatMap_cons, List.flatMap_map]
  congr 2
  funext i
  unfold printed
  split <;> rfl

/-- The rows are the points as they were printed. -/
lemma splitOn_text (d : Dump) :
    d.text.splitOn '\n' = header :: d.order.map d.printed ++ [[]] := by
  have hlines : ∀ line ∈ header :: d.order.map d.printed, '\n' ∉ line := by
    intro line hline
    rcases List.mem_cons.mp hline with rfl | hline
    · decide
    · obtain ⟨i, -, rfl⟩ := List.mem_map.mp hline
      exact newline_notMem_printed
  have hsplit := splitOn_print hlines []
  rwa [List.append_nil, ← text_eq, List.splitOn_nil] at hsplit

lemma order_of_reversed (h : d.Reversed) : d.order = (List.range d.npoints).reverse := if_pos h

lemma order_of_not_reversed (h : ¬ d.Reversed) : d.order = List.range d.npoints := if_neg h

lemma length_order (d : Dump) : d.order.length = d.npoints := by
  unfold order
  split <;> simp

/-- A table is delimited if its last point, and no other, has the highest index. -/
lemma delimited_iff_order (d : Dump) :
    d.Delimited ↔ ∀ i j, d.order[i]? = some j → (j = d.npoints - 1 ↔ i + 1 = d.npoints) := by
  rw [Delimited, splitOn_text]
  constructor
  · rintro ⟨rows, heq, -, hrows⟩ i j hij
    obtain rfl : d.order.map d.printed = rows := by simpa using heq
    have hlast := hrows i (d.printed j) (by rw [List.getElem?_map, hij, Option.map_some])
    rwa [getLast?_printed] at hlast
  · intro horder
    refine ⟨_, rfl, by rw [List.length_map, length_order], fun i row hrow => ?_⟩
    rw [List.getElem?_map, Option.map_eq_some_iff] at hrow
    obtain ⟨j, hij, rfl⟩ := hrow
    rw [getLast?_printed]
    exact horder i j hij

/-- The first row of a reversed table has the semicolon. -/
lemma delimited_iff (d : Dump) : d.Delimited ↔ ¬ d.Reversed := by
  have htwo := d.two_le
  rw [delimited_iff_order]
  constructor
  · intro horder hrev
    have hfirst : d.order[0]? = some (d.npoints - 1) := by
      rw [order_of_reversed hrev, List.getElem?_reverse (by simp; omega), List.length_range,
        List.getElem?_range (by omega)]
      simp
    have := (horder 0 (d.npoints - 1) hfirst).mp rfl
    omega
  · intro hrev i j hij
    rw [order_of_not_reversed hrev] at hij
    obtain ⟨hi, rfl⟩ : i < d.npoints ∧ i = j := by
      simpa [List.getElem?_range', List.getElem?_eq_some_iff] using hij
    omega

/-- The part of a text up to the semicolon of the call at its beginning. -/
lemma pieces_text {before after : List ℕ} (horder : d.order = before ++ (d.npoints - 1) :: after)
    (hbefore : ∀ i ∈ before, i ≠ d.npoints - 1) (rest : Text) :
    pieces (d.text ++ rest) =
      (header :: (before ++ [d.npoints - 1]).map d.line) ::
        pieces ((after.map d.printed).flatMap print ++ rest) := by
  have hlines : before.map d.printed = before.map d.line :=
    List.map_congr_left fun i hi => printed_of_ne (hbefore i hi)
  have hlast : d.printed (d.npoints - 1) = d.line (d.npoints - 1) ++ [';'] := if_pos rfl
  have htext : d.text ++ rest =
      ((header :: before.map d.line).flatMap print ++ d.line (d.npoints - 1)) ++
        ';' :: '\n' :: ((after.map d.printed).flatMap print ++ rest) := by
    rw [text_eq, horder, List.map_append, List.map_cons, hlines, hlast]
    simp [print]
  have hpart : ∀ line ∈ header :: before.map d.line,
      ';' ∉ print line ∧ '\n' ∉ line ∧ line ≠ [] := by
    intro line hline
    rcases List.mem_cons.mp hline with rfl | hline
    · decide
    · obtain ⟨i, -, rfl⟩ := List.mem_map.mp hline
      exact ⟨by simp [print, semicolon_notMem_line], newline_notMem_line, line_ne_nil⟩
  have hsemicolon :
      ';' ∉ (header :: before.map d.line).flatMap print ++ d.line (d.npoints - 1) := by
    rw [List.mem_append, List.mem_flatMap]
    rintro (⟨line, hline, hmem⟩ | hmem)
    · exact (hpart line hline).1 hmem
    · exact semicolon_notMem_line hmem
  have hline := fun line hline => (hpart line hline).2.1
  have hne := fun line hline => (hpart line hline).2.2
  rw [htext, pieces_semicolon hsemicolon, pieces_newline, linesOf_print hline hne,
    linesOf_of_notMem newline_notMem_line line_ne_nil, List.map_append, List.cons_append]
  rfl

/-- The semicolon of a forward call is where its table ends. -/
lemma pieces_of_not_reversed (hrev : ¬ d.Reversed) (rest : Text) :
    pieces (d.text ++ rest) = d.table :: pieces rest := by
  obtain ⟨m, hm⟩ := d.npoints_eq
  have horder : d.order = List.range (m + 1) ++ (d.npoints - 1) :: [] := by
    rw [order_of_not_reversed hrev, hm, List.range_succ]
    rfl
  have hbefore : ∀ i ∈ List.range (m + 1), i ≠ d.npoints - 1 := by
    intro i hi
    have := List.mem_range.mp hi
    omega
  rw [pieces_text horder hbefore, ← horder]
  rfl

/-- The semicolon of a reversed call is after its first row. -/
lemma pieces_of_reversed (hrev : d.Reversed) (rest : Text) :
    (pieces (d.text ++ rest)).head? = some [header, d.line (d.npoints - 1)] := by
  obtain ⟨m, hm⟩ := d.npoints_eq
  have horder : d.order = [] ++ (d.npoints - 1) :: (List.range (m + 1)).reverse := by
    rw [order_of_reversed hrev, hm, List.range_succ, List.reverse_concat]
    rfl
  rw [pieces_text horder (by simp)]
  rfl

lemma length_table (d : Dump) : d.table.length = d.npoints + 1 := by
  rw [table, List.length_cons, List.length_map, length_order]

end Dump

/-! ## Sequences of tables -/

/-- A sequence of calls splits back into their tables, and nothing is left over, as long as none of
them is reversed. -/
lemma pieces_eq_tables_iff (dumps : List Dump) :
    pieces (dumps.flatMap Dump.text) = dumps.map Dump.table ++ [[]] ↔
      ∀ d ∈ dumps, ¬ d.Reversed := by
  induction dumps with
  | nil => exact iff_of_true rfl (by simp)
  | cons d dumps ih =>
    rw [List.flatMap_cons, List.map_cons, List.cons_append, List.forall_mem_cons]
    by_cases hrev : d.Reversed
    · refine iff_of_false (fun heq => ?_) fun h => h.1 hrev
      have hhead := Dump.pieces_of_reversed hrev (dumps.flatMap Dump.text)
      rw [heq, List.head?_cons, Option.some_inj] at hhead
      have hlength := congrArg List.length hhead
      rw [Dump.length_table] at hlength
      have := d.two_le
      simp at hlength
      omega
    · rw [Dump.pieces_of_not_reversed hrev, List.cons_inj_right, ih]
      exact (and_iff_right hrev).symm

/-- The semicolons delimit the tables unless a table is printed backwards. -/
theorem tables_delimited_iff (dumps : List Dump) :
    ((∀ d ∈ dumps, d.Delimited) ∧
        pieces (dumps.flatMap Dump.text) = dumps.map Dump.table ++ [[]]) ↔
      ∀ d ∈ dumps, d.profile ≠ .rsinusoid true := by
  rw [pieces_eq_tables_iff]
  constructor
  · exact fun h => h.2
  · exact fun h => ⟨fun d hd => d.delimited_iff.mpr (h d hd), h⟩

/-- The script: the functions are called with 1000 points each. -/
def script (s a : Profile → ℕ → ℤ) : List Dump :=
  [.sinusoid, .rsinusoid false, .minJerk, .rsinusoid true].map fun profile =>
    ⟨profile, 1000, s profile, a profile, by decide⟩

/-- The last table of the script has its semicolon after the first row. -/
theorem script_not_delimited :
    ¬ (∀ d ∈ script (fun _ i => i) (fun _ _ => 0), d.Delimited) ∧
      pieces ((script (fun _ i => i) (fun _ _ => 0)).flatMap Dump.text) ≠
        (script (fun _ i => i) (fun _ _ => 0)).map Dump.table ++ [[]] := by
  have hlast : ¬ ∀ d ∈ script (fun _ i => i) (fun _ _ => 0), ¬ d.Reversed := by
    simp [script, Dump.Reversed]
  refine ⟨fun hall => hlast fun d hd => d.delimited_iff.mp (hall d hd), ?_⟩
  rwa [Ne, pieces_eq_tables_iff]

end SledServer.Tools
