import Mathlib.Data.Nat.Digits.Defs
import SchemaGen.Proofs.Text.Line
import SchemaGen.Report

namespace SchemaGen

namespace Text

theorem toString_text (text : String) : toString text = text := rfl

@[simp]
theorem toList_copies (count : Nat) (c : Char) :
    (copies count c).toList = List.replicate count c := by
  simp [copies]

@[simp]
theorem length_copies (count : Nat) (c : Char) : (copies count c).length = count := by
  simp [copies]

/-- Larger numbers have no fewer digits. -/
theorem length_toString_le {small large : Nat} (hle : small ≤ large) :
    (toString small).length ≤ (toString large).length := by
  have hlength (n : Nat) : (toString n).length = (Nat.toDigits 10 n).length := by
    simp [← String.length_toList]
  have hlarge := (Nat.length_toDigits_le_iff (by decide) Nat.length_toDigits_pos).mp
    (Nat.le_refl (Nat.toDigits 10 large).length)
  rw [hlength, hlength, Nat.length_toDigits_le_iff (by decide) Nat.length_toDigits_pos]
  exact Nat.lt_of_le_of_lt hle hlarge

theorem length_flushRight {width : Nat} {text : String} (hfits : text.length ≤ width) :
    (flushRight width text).length = width := by
  rw [flushRight, String.length_append, length_copies]
  omega

end Text

namespace Report

open Text

theorem sourceRow_plain (width number : Nat) (style : Terminal.Style) (line : String) :
    sourceRow false width number style line =
      flushRight width (toString number) ++ " | " ++ line ++ "\n" := by
  rw [← String.toList_inj]
  simp [sourceRow, Terminal.paint]

theorem caretRow_plain (width column carets : Nat) :
    caretRow false width column carets =
      copies width ' ' ++ " | " ++ copies column ' ' ++ copies carets '^' ++ "\n" := by
  rw [← String.toList_inj]
  simp [caretRow, Terminal.paint, flushRight]

/-- The rows of lines that the report does not point at, each with its number. -/
def contextRows (colour : Bool) (width : Nat) (lines : List (String × Nat)) : List String :=
  lines.map fun (text, i) => sourceRow colour width (i + 1) .dimmed text

/-- The width of the numbers beside an excerpt around a line with `before` lines before it and
`behind` lines behind it: that of the last number shown. -/
def gutterWidth (before behind : Nat) : Nat :=
  (toString (before + 1 + min behind 2)).length

/-- The lines that an excerpt shows, with their indices. -/
theorem shown_lines (before : List String) (line : String) (behind : List String) :
    ((before ++ line :: behind).zipIdx.take (before.length + 1 + min behind.length 2)).drop
        (before.length - 2) =
      before.zipIdx.drop (before.length - 2) ++
        (line, before.length) :: (behind.zipIdx (before.length + 1)).take 2 := by
  have htake : (before ++ line :: behind).zipIdx.take (before.length + 1 + min behind.length 2) =
      before.zipIdx ++ (line, before.length) :: (behind.zipIdx (before.length + 1)).take 2 := by
    have hbehind : (behind.zipIdx (before.length + 1)).take (min behind.length 2) =
        (behind.zipIdx (before.length + 1)).take 2 := by
      rw [← List.take_take, List.take_of_length_le (by simp)]
    rw [List.zipIdx_append, List.zipIdx_cons, List.take_append,
      List.take_of_length_le (by simp; omega), List.length_zipIdx, Nat.add_assoc,
      Nat.add_sub_cancel_left, Nat.add_comm 1, List.take_succ_cons, Nat.zero_add, hbehind]
  rw [htake, List.drop_append_of_le_length (by simp)]

/-- Where the line that the report points at is not among them, lines give their own rows only. -/
theorem map_rows_eq_contextRows {shown : List (String × Nat)} {index : Nat}
    (hother : ∀ entry ∈ shown, entry.2 ≠ index) (colour : Bool) (width : Nat)
    (pointed : String × Nat → String) :
    shown.map (fun entry => if entry.2 = index then pointed entry
        else sourceRow colour width (entry.2 + 1) .dimmed entry.1) =
      contextRows colour width shown := by
  refine List.map_congr_left fun entry hmem => ?_
  exact if_neg (hother entry hmem)

/-- The excerpt row by row. -/
theorem excerpt_eq {source line : String} {before behind : List String} {loc : Location}
    (hlines : lines source = before ++ line :: behind)
    (hindex : min loc.line (before.length + behind.length) = before.length)
    (colour : Bool) (carets : Nat) :
    let width := gutterWidth before.length behind.length
    excerpt colour source loc carets =
      String.join (contextRows colour width (before.zipIdx.drop (before.length - 2))) ++
        sourceRow colour width (before.length + 1) .blue line ++
        caretRow colour width (if loc.line = before.length then loc.column else line.length)
          carets ++
        String.join (contextRows colour width ((behind.zipIdx (before.length + 1)).take 2)) := by
  have hline : min loc.line ((before ++ line :: behind).length - 1) = before.length := by
    rw [← hindex]
    simp
  have hget : (before ++ line :: behind)[before.length]? = some line := by simp
  have hstop : min (before.length + 3) (before ++ line :: behind).length =
      before.length + 1 + min behind.length 2 := by
    simp only [List.length_append, List.length_cons]
    omega
  have hbefore : ∀ entry ∈ before.zipIdx.drop (before.length - 2), entry.2 ≠ before.length := by
    intro entry hmem
    have hbound := List.mem_zipIdx (List.mem_of_mem_drop hmem)
    omega
  have hbehind : ∀ entry ∈ (behind.zipIdx (before.length + 1)).take 2, entry.2 ≠ before.length := by
    intro entry hmem
    have hbound := List.mem_zipIdx (List.mem_of_mem_take hmem)
    omega
  unfold excerpt
  simp only [hlines, hline, hstop, hget, shown_lines]
  rw [List.map_append, List.map_cons, map_rows_eq_contextRows hbefore,
    map_rows_eq_contextRows hbehind, if_pos rfl, String.join_append, String.join_cons]
  simp only [gutterWidth, String.append_assoc]

end Report

end SchemaGen
