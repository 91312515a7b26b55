import Mathlib.Data.List.Nodup
import SchemaGen.Proofs.Report.Excerpt

namespace SchemaGen

namespace Report

open Text

/-- A line beside its number. -/
def numberedRow (gutter number : Nat) (line : String) : String :=
  flushRight gutter (toString number) ++ " | " ++ line

/-- The row below a line: blanks up to the first caret, then the carets. -/
def markedRow (gutter blanks carets : Nat) : String :=
  copies gutter ' ' ++ " | " ++ copies blanks ' ' ++ copies carets '^'

/-- The lines up to two before and two behind an index, with their own indices. -/
def nearby (lines : List String) (index : Nat) : List (String × Nat) :=
  lines.zipIdx.filter fun (_, i) => index - 2 ≤ i ∧ i ≤ index + 2

/-- The rows for one line: the line beside its number and, if the report points at it, the carets.
They stand at the column of the position, or at the end of the line when the position lies on a
later one. -/
def rowsOf (index gutter : Nat) (loc : Location) (carets : Nat) : String × Nat → List String
  | (line, i) =>
    numberedRow gutter (i + 1) line ::
      if i = index then
        [markedRow gutter (if index < loc.line then line.length else loc.column) carets]
      else []

/-- Cutting numbered lines at two indices leaves those with an index in between. -/
theorem drop_take_zipIdx (lines : List String) (first start stop : Nat) :
    ((lines.zipIdx first).take (stop - first)).drop (start - first) =
      (lines.zipIdx first).filter fun (_, i) => start ≤ i ∧ i < stop := by
  induction lines generalizing first with
  | nil => simp
  | cons line lines ih =>
    rw [List.zipIdx_cons]
    -- the first line is in between, before it, or behind it with all the others
    by_cases hstop : first < stop
    · have hmore : stop - first = stop - (first + 1) + 1 := by omega
      rw [hmore, List.take_succ_cons]
      by_cases hstart : start ≤ first
      · have hskip : start - first = 0 := by omega
        have hskipped : start - (first + 1) = 0 := by omega
        rw [List.filter_cons_of_pos (by simp [hstart, hstop]), ← ih, hskip, hskipped,
          List.drop_zero, List.drop_zero]
      · have hskip : start - first = start - (first + 1) + 1 := by omega
        rw [List.filter_cons_of_neg (by simp [hstart]), ← ih, hskip, List.drop_succ_cons]
    · have hend : stop - first = 0 := by omega
      have hended : stop - (first + 1) = 0 := by omega
      rw [List.filter_cons_of_neg (by simp [hstop]), ← ih, hend, hended]
      simp

theorem nearby_eq_drop_take (lines : List String) (index : Nat) :
    nearby lines index =
      (lines.zipIdx.take (min (index + 3) lines.length)).drop (index - 2) := by
  have hcut := drop_take_zipIdx lines 0 (index - 2) (min (index + 3) lines.length)
  rw [Nat.sub_zero, Nat.sub_zero] at hcut
  rw [hcut, nearby]
  refine List.filter_congr fun entry hmem => ?_
  have hbound := (List.mem_zipIdx hmem).2.1
  simp only [decide_eq_decide]
  omega

theorem join_flatMap {α : Type} {entries : List α} {rows : α → List String} {text : α → String}
    (hrows : ∀ entry ∈ entries, text entry = String.join ((rows entry).map (· ++ "\n"))) :
    String.join (entries.map text) = String.join ((entries.flatMap rows).map (· ++ "\n")) := by
  induction entries with
  | nil => rfl
  | cons entry entries ih =>
    rw [List.map_cons, String.join_cons, List.flatMap_cons, List.map_append, String.join_append,
      hrows entry (.head _), ih fun other hmem => hrows other (.tail _ hmem)]

theorem sourceRow_eq_numberedRow (gutter number : Nat) (style : Terminal.Style) (line : String) :
    sourceRow false gutter number style line = numberedRow gutter number line ++ "\n" :=
  sourceRow_plain ..

theorem caretRow_eq_markedRow (gutter blanks carets : Nat) :
    caretRow false gutter blanks carets = markedRow gutter blanks carets ++ "\n" :=
  caretRow_plain ..

/-- A position lies on the line it is shown on, or on a later one. -/
theorem shown_column {loc : Location} {last index : Nat} (hindex : min loc.line last = index)
    (line : String) : (if loc.line = index then loc.column else line.length) =
      if index < loc.line then line.length else loc.column := by
  by_cases hlater : index < loc.line
  · rw [if_pos hlater, if_neg (by omega)]
  · rw [if_neg hlater, if_pos (by omega)]

/-- A plain excerpt is made of the rows for the lines near the one that its position is shown on. -/
theorem excerpt_eq_rows {source : String} {loc : Location} {index gutter : Nat}
    (hindex : min loc.line ((lines source).length - 1) = index)
    (hgutter : (toString (min (index + 3) (lines source).length)).length = gutter) (carets : Nat) :
    let rows := (nearby (lines source) index).flatMap (rowsOf index gutter loc carets)
    excerpt false source loc carets = String.join (rows.map (· ++ "\n")) := by
  intro rows
  unfold excerpt
  simp only [hindex]
  rw [hgutter]
  cases hline : (lines source)[index]? with
  | none =>
    have hlength := List.getElem?_eq_none_iff.mp hline
    have hnone : lines source = [] := List.length_eq_zero_iff.mp (by omega)
    simp [rows, hnone, nearby]
  | some line =>
    simp only [rows]
    rw [nearby_eq_drop_take]
    refine join_flatMap fun (text, i) hmem => ?_
    by_cases hi : i = index
    · have hget := List.mk_mem_zipIdx_iff_getElem?.mp
        (List.mem_of_mem_take (List.mem_of_mem_drop hmem))
      obtain rfl : line = text := by
        rw [hi, hline] at hget
        exact Option.some.inj hget
      simp [rowsOf, hi, shown_column hindex, sourceRow_eq_numberedRow, caretRow_eq_markedRow]
    · simp [rowsOf, hi, sourceRow_eq_numberedRow]

/-- The first bar of a row stands behind its gutter. -/
theorem idxOf_bar {front : String} (hfront : '|' ∉ front.toList) (text : String) :
    (front ++ " | " ++ text).toList.idxOf '|' = front.length + 1 := by
  rw [String.append_assoc, String.toList_append, List.idxOf_append_of_notMem hfront,
    String.length_toList, String.toList_append]
  rfl

theorem idxOf_bar_numberedRow {gutter number : Nat} (hfits : (toString number).length ≤ gutter)
    (line : String) : (numberedRow gutter number line).toList.idxOf '|' = gutter + 1 := by
  have hdigits := @not_mem_toDigits '|' (by decide) number
  rw [numberedRow, idxOf_bar (by simpa [flushRight] using hdigits), length_flushRight hfits]

theorem idxOf_bar_markedRow (gutter blanks carets : Nat) :
    (markedRow gutter blanks carets).toList.idxOf '|' = gutter + 1 := by
  rw [markedRow, String.append_assoc, idxOf_bar (by simp), length_copies]

/-- A row is a line nearby beside its number, or the carets. -/
theorem mem_rows {lines : List String} {index gutter : Nat} {loc : Location} {carets : Nat}
    {row : String} (hrow : row ∈ (nearby lines index).flatMap (rowsOf index gutter loc carets)) :
    (∃ line i, lines[i]? = some line ∧ i ≤ index + 2 ∧ row = numberedRow gutter (i + 1) line) ∨
      ∃ blanks, row = markedRow gutter blanks carets := by
  obtain ⟨⟨line, i⟩, hmem, hrow⟩ := List.mem_flatMap.mp hrow
  obtain ⟨hline, hnear⟩ := List.mem_filter.mp hmem
  rcases List.mem_cons.mp hrow with rfl | hrow
  · exact .inl ⟨line, i, List.mk_mem_zipIdx_iff_getElem?.mp hline, (of_decide_eq_true hnear).2, rfl⟩
  · split at hrow
    · exact .inr ⟨_, List.mem_singleton.mp hrow⟩
    · simp at hrow

theorem length_flatMap_rowsOf (entries : List (String × Nat)) (index gutter : Nat) (loc : Location)
    (carets : Nat) :
    (entries.flatMap (rowsOf index gutter loc carets)).length =
      entries.length + (entries.map Prod.snd).count index := by
  induction entries with
  | nil => rfl
  | cons entry entries ih =>
    rw [List.flatMap_cons, List.length_append, ih, List.map_cons, List.count_cons]
    by_cases hi : entry.2 = index <;> simp [rowsOf, hi] <;> omega

/-- The line that the report points at is nearby, and it is so once. -/
theorem count_nearby {lines : List String} {index : Nat} (hindex : index < lines.length) :
    ((nearby lines index).map Prod.snd).count index = 1 := by
  have hnodup : ((nearby lines index).map Prod.snd).Nodup := by
    refine List.Nodup.sublist (List.filter_sublist.map _) ?_
    rw [List.zipIdx_map_snd]
    exact List.nodup_range'
  have hmem : (lines.get ⟨index, hindex⟩, index) ∈ nearby lines index :=
    List.mem_filter.mpr ⟨List.mk_mem_zipIdx_iff_getElem?.mpr (by simp), by simp⟩
  exact List.count_eq_one_of_mem hnodup (List.mem_map_of_mem hmem)

/-- A row is one line of text, and its bar stands behind the gutter. -/
theorem bar_of_mem_rows {source row : String} {index gutter : Nat} {loc : Location} {carets : Nat}
    (hgutter : (toString (min (index + 3) (lines source).length)).length = gutter)
    (hrow : row ∈ (nearby (lines source) index).flatMap (rowsOf index gutter loc carets)) :
    '\n' ∉ row.toList ∧ row.toList.idxOf '|' = gutter + 1 := by
  rcases mem_rows hrow with ⟨line, i, hline, hnear, rfl⟩ | ⟨blanks, rfl⟩
  · have hlength := (List.getElem?_eq_some_iff.mp hline).1
    have hfits : (toString (i + 1)).length ≤ gutter := by
      rw [← hgutter]
      exact length_toString_le (by omega)
    have hdigits := @not_mem_toDigits '\n' (by decide) (i + 1)
    have hnewline := newline_not_mem_lines (List.mem_of_getElem? hline)
    exact ⟨by simp [numberedRow, flushRight, hnewline, hdigits], idxOf_bar_numberedRow hfits line⟩
  · exact ⟨by simp [markedRow], idxOf_bar_markedRow ..⟩

/-- A plain report with a position in a source, part by part. -/
theorem render_pointingAt (report : Report) (source : String) (loc : Location) (width : Nat) :
    ({ report with source := some source }.pointingAt loc width).render false =
      "error: " ++ report.message ++ "\n  --> " ++ report.file.getD "<stdin>" ++ ":" ++
        toString (loc.line + 1) ++ ":" ++ toString (loc.column + 1) ++ "\n\n" ++
        excerpt false source loc (max 1 width) ++
        remark false .green "suggestion:" report.suggestion ++
        remark false .cyan "help:" report.help := by
  rw [← String.toList_inj, Nat.max_comm]
  simp [pointingAt, render, pointer, surroundings, Terminal.paint, Location.shownLine,
    Location.shownColumn, toString_text]

/-- The plain report on a position in a source shows the source through a window. Its rows are the
lines near the one that the position is shown on, in order, each behind its number and a bar; one
row more, with the carets, stands directly below that line. The numbers are set to the width of the
last one, so that all bars stand in one column. An empty source shows no row. -/
theorem render_shows_window (report : Report) (source : String) (loc : Location) (width : Nat) :
    let index := min loc.line ((lines source).length - 1)
    let gutter := (toString (min (index + 3) (lines source).length)).length
    let shown := nearby (lines source) index
    let rows := shown.flatMap (rowsOf index gutter loc (max 1 width))
    ({ report with source := some source }.pointingAt loc width).render false =
        "error: " ++ report.message ++ "\n  --> " ++ report.file.getD "<stdin>" ++ ":" ++
          toString (loc.line + 1) ++ ":" ++ toString (loc.column + 1) ++ "\n\n" ++
          String.join (rows.map (· ++ "\n")) ++
          remark false .green "suggestion:" report.suggestion ++
          remark false .cyan "help:" report.help ∧
      (∀ row ∈ rows, '\n' ∉ row.toList ∧ row.toList.idxOf '|' = gutter + 1) ∧
      (lines source ≠ [] → rows.length = shown.length + 1) ∧
      (source = "" → rows = []) := by
  intro index gutter shown rows
  refine ⟨?_, fun row hrow => bar_of_mem_rows rfl hrow, fun hne => ?_, ?_⟩
  · rw [render_pointingAt, excerpt_eq_rows rfl rfl]
  · have hlength := List.length_pos_iff.mpr hne
    rw [length_flatMap_rowsOf, count_nearby (by omega)]
  · rintro rfl
    rfl

example : excerpt false "a\nbc\n" ⟨2, 0⟩ 1 = "1 | a\n2 | bc\n  |   ^\n" := by decide +kernel

end Report

end SchemaGen
