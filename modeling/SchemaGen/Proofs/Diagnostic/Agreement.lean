import SchemaGen.Proofs.Diagnostic.Plain
import SchemaGen.Proofs.Report.Underline
import SchemaGen.Proofs.Report.Window

namespace SchemaGen

open Text Report

/-- In a text one row shows a line beside its number. The row directly below it repeats the gutter
without the number and has some blanks, then all its carets, and a note at most behind them. -/
inductive Points (text : String) (number : Nat) (line : String) (blanks carets : Nat) : Prop
  | mk {above note below : String} {gutter : Nat}
      (htext : text = above ++ numberedRow gutter number line ++ "\n" ++
        markedRow gutter blanks carets ++ note ++ "\n" ++ below)
      (habove : ∀ c ∈ above.toList.getLast?, c = '\n')
      (hgutter : (toString number).length ≤ gutter) (hline : '\n' ∉ line.toList)
      (hnote : '\n' ∉ note.toList ∧ '^' ∉ note.toList)

/-- The line that the token to blame is shown on, and where on it: not behind its end. -/
theorem Document.shown_line_of_error {source : String} {error : SyntaxError}
    (herror : ofText source = .error error) :
    let loc := error.rootCause.token.loc
    let index := min loc.line ((lines source).length - 1)
    ∃ line, (lines source)[index]? = some line ∧
      (if index < loc.line then line.length else loc.column) ≤ line.length := by
  obtain ⟨hmem, hsignificant⟩ := rootCause_mem_lex herror
  intro loc index
  rcases eof_or_chunk_of_mem_lex hmem with heof | ⟨before, chunk, after, hsource, hloc, hstands⟩
  · -- the end of the file lies at the end of the last line or on a line behind it
    obtain ⟨others, last, hlines⟩ :=
      (List.eq_nil_or_concat' (lines source)).resolve_left (lines_ne_nil_of_error herror)
    obtain ⟨hbehind, hcolumn⟩ := end_at_last_line hlines
    have hend : loc = .behind source.toList := congrArg Token.loc heof
    rw [← hend] at hbehind hcolumn
    have hindex : index = others.length := by
      simp only [index, hlines, List.length_append, List.length_singleton]
      omega
    refine ⟨last, by simp [hindex, hlines], ?_⟩
    split
    · exact Nat.le_refl _
    · exact Nat.le_of_eq (hcolumn (by omega))
  · -- any other token stands whole in its line, so the line reaches at least as far as the token
    have hblank := hstands.isWhiteSpace_eq_false hsignificant
    obtain ⟨line, back, hline, _, hchars⟩ := exists_line hsource hstands.chunk_ne_nil
      (fun hnewline => absurd (hblank _ hnewline) (by decide))
      (fun hreturn => absurd (hblank _ hreturn) (by decide))
    have hloc : loc = .behind before := hloc
    rw [← hloc] at hline
    have hlt := (List.getElem?_eq_some_iff.mp hline).1
    have hindex : index = loc.line := by omega
    have hcolumn : loc.column ≤ line.length := by
      rw [← String.length_toList, hchars, hloc, column_behind, List.append_assoc,
        List.length_append]
      exact Nat.le_add_right ..
    rw [hindex]
    exact ⟨line, hline, by rwa [if_neg (by omega)]⟩

/-- The report points at the line that its position is shown on. -/
theorem Report.excerpt_points {source line : String} {index : Nat} {loc : Location}
    (hindex : min loc.line ((lines source).length - 1) = index)
    (hline : (lines source)[index]? = some line) (carets : Nat) (below : String) :
    Points (excerpt false source loc carets ++ below) (index + 1) line
      (if index < loc.line then line.length else loc.column) carets := by
  obtain ⟨before, behind, hlines, rfl⟩ := split_at_line hline
  have hshown : min loc.line (before.length + behind.length) = before.length := by
    simpa [hlines] using hindex
  have hexcerpt := excerpt_eq hlines hshown false carets
  simp only [sourceRow_eq_numberedRow, caretRow_eq_markedRow, shown_column hindex] at hexcerpt
  generalize hwidth : gutterWidth before.length behind.length = gutter at hexcerpt
  have hfits : (toString (before.length + 1)).length ≤ gutter := by
    rw [← hwidth]
    exact length_toString_le (by omega)
  generalize (if before.length < loc.line then line.length else loc.column) = blanks at hexcerpt ⊢
  have htext : excerpt false source loc carets ++ below =
      String.join (contextRows false gutter (before.zipIdx.drop (before.length - 2))) ++
        numberedRow gutter (before.length + 1) line ++ "\n" ++ markedRow gutter blanks carets ++
        "" ++ "\n" ++ (String.join (contextRows false gutter
          ((behind.zipIdx (before.length + 1)).take 2)) ++ below) := by
    rw [hexcerpt]
    simp only [String.append_assoc, String.append_empty]
  exact .mk htext (getLast?_join_contextRows _ _) hfits
    (newline_not_mem_lines (List.mem_of_getElem? hline)) (by simp)

theorem Token.width_pos {token : Token} (hkind : token.kind ≠ .whitespace) : 0 < token.width := by
  unfold width
  split
  · omega
  · exact absurd ‹_› hkind
  · exact Nat.one_pos

namespace Diagnostic

open Terminal

theorem foldl_width (chars : List Char) (start : Nat) :
    chars.foldl (fun width c => width + if c = '\t' then 4 else 1) start =
      start + chars.length + 3 * chars.count '\t' := by
  induction chars generalizing start with
  | nil => simp
  | cons c chars ih =>
    rw [List.foldl_cons, ih, List.length_cons, List.count_cons]
    by_cases htab : c = '\t' <;> simp [htab] <;> omega

theorem visualColumn_eq {line : String} {column : Nat} (hcolumn : column ≤ line.length) :
    visualColumn line column = column + 3 * (line.toList.take column).count '\t' := by
  rw [visualColumn, foldl_width, Nat.zero_add, List.length_take_of_le]
  rwa [String.length_toList]

theorem flushRight_succ {width : Nat} {text : String} (hfits : text.length ≤ width) :
    flushRight (width + 1) text = " " ++ flushRight width text := by
  have hmore : width + 1 - text.length = width - text.length + 1 := by omega
  rw [← String.toList_inj]
  simp [flushRight, hmore, List.replicate_succ]

theorem not_mem_label (error : SyntaxError) :
    '\n' ∉ (label error).toList ∧ '^' ∉ (label error).toList := by
  unfold label
  split <;> decide

theorem rows_point {line note : String} (hline : '\n' ∉ line.toList)
    (hnote : '\n' ∉ note.toList ∧ '^' ∉ note.toList) (index column carets : Nat) :
    Points ("   |\n" ++ written false (rowSpans index line column carets note) ++ "   |\n")
      (index + 1) line column carets := by
  generalize hwidth : max (toString (index + 2)).length 2 = width
  have hfits : (toString (index + 1)).length ≤ width := by
    have hlonger := @length_toString_le (index + 1) (index + 2) (by omega)
    omega
  have htext : "   |\n" ++ written false (rowSpans index line column carets note) ++ "   |\n" =
      "   |\n" ++ numberedRow (width + 1) (index + 1) line ++ "\n" ++
        markedRow (width + 1) column carets ++ (" " ++ note) ++ "\n" ++ "   |\n" := by
    simp only [rowSpans, hwidth]
    rw [numberedRow, flushRight_succ hfits, ← String.toList_inj]
    simp [written, Span.written, paint, markedRow, flushRight, List.replicate_succ]
  exact .mk htext (by simp) (by omega) hline (by simpa using hnote)

/-- The account points at the line that its position is shown on. A tab before the carets takes
three columns more than a character. -/
theorem excerptSpans_point {source line : String} {cause : SyntaxError} {index blanks : Nat}
    (hindex : min cause.loc.line ((lines source).length - 1) = index)
    (hline : (lines source)[index]? = some line)
    (hcolumn : (if index < cause.loc.line then line.length else cause.loc.column) = blanks)
    (hblanks : blanks ≤ line.length) :
    Points ("   |\n" ++ written false (excerptSpans source cause) ++ "   |\n") (index + 1) line
      (blanks + 3 * (line.toList.take blanks).count '\t') cause.token.width := by
  have hshown : shownColumn (lines source) cause.loc line = blanks := by
    rw [shownColumn, shownIndex, hindex, ← hcolumn, ← shown_column hindex]
    exact if_congr eq_comm rfl rfl
  have hspans : excerptSpans source cause =
      rowSpans index line (visualColumn line blanks) cause.token.width (label cause) := by
    rw [← hshown]
    simp only [excerptSpans, shownIndex, hindex, hline]
  rw [hspans, visualColumn_eq hblanks]
  exact rows_point (newline_not_mem_lines (List.mem_of_getElem? hline)) (not_mem_label cause) ..

/-- The plain account is its message, the position it points at, and its rows between two bars. -/
theorem written_spans (source : String) (error : SyntaxError) :
    let loc := error.rootCause.loc
    written false (spans source error) =
      "error: " ++ error.message ++ "\n  --> line " ++
        (toString (loc.line + 1) ++ ":" ++ toString (loc.column + 1)) ++ "\n" ++
        ("   |\n" ++ written false (excerptSpans source error.rootCause) ++ "   |\n") := by
  rw [← String.toList_inj]
  simp [spans, written, Span.written, paint, Location.shownLine, Location.shownColumn]

/-- The account of a failure, without its styles, and the plain report on it point at the same
place. Both name the position of the token to blame, show the same line beside the same number, and
have as many carets below it as the token is wide. The blanks before the carets differ by three for
every tab that stands before them in the line. -/
theorem points_where_report_points {source : String} {error : SyntaxError} (file : Option String)
    (herror : Document.ofText source = .error error) :
    let blamed := error.rootCause.token
    let position := toString (blamed.loc.line + 1) ++ ":" ++ toString (blamed.loc.column + 1)
    let index := min blamed.loc.line ((lines source).length - 1)
    render source error = written true (spans source error) ∧
      ('\x1b' ∉ source.toList →
        withoutCodes (render source error) = written false (spans source error)) ∧
      ∃ account report line blanks,
        written false (spans source error) =
          "error: " ++ error.message ++ "\n  --> line " ++ position ++ "\n" ++ account ∧
        (error.report file source).render false =
          "error: Parse error: " ++ error.message ++ "\n  --> " ++ file.getD "<stdin>" ++ ":" ++
            position ++ "\n\n" ++ report ∧
        (lines source)[index]? = some line ∧
        blanks = (if index < blamed.loc.line then line.length else blamed.loc.column) ∧
        blanks ≤ line.length ∧ 0 < blamed.width ∧
        Points report (index + 1) line blanks blamed.width ∧
        Points account (index + 1) line (blanks + 3 * (line.toList.take blanks).count '\t')
          blamed.width := by
  intro blamed position index
  have hwidth : 0 < blamed.width := Token.width_pos (Document.rootCause_mem_lex herror).2
  have hcarets : max blamed.width 1 = blamed.width := by omega
  obtain ⟨line, hline, hblanks⟩ := Document.shown_line_of_error herror
  obtain ⟨advice, hrender⟩ := render_report error file source
  refine ⟨render_eq_written source error, withoutCodes_render herror,
    "   |\n" ++ written false (excerptSpans source error.rootCause) ++ "   |\n",
    Report.excerpt false source blamed.loc (max blamed.width 1) ++ advice, line, _,
    written_spans source error, ?_, hline, rfl, hblanks, hwidth, ?_,
    excerptSpans_point rfl hline rfl hblanks⟩
  · rw [hrender]
    simp only [position, blamed, String.append_assoc]
  · rw [hcarets]
    exact excerpt_points rfl hline _ _

/-- Behind one tab the account has three blanks more than the report. -/
theorem points_where_report_points_tab :
    ∃ error account report, Document.ofText "type A \x7b\n\tb cd\n\x7d" = .error error ∧
      withoutCodes (render "type A \x7b\n\tb cd\n\x7d" error) = "error: " ++ error.message ++
        "\n  --> line " ++ (toString 2 ++ ":" ++ toString 4) ++ "\n" ++ account ∧
      (error.report none "type A \x7b\n\tb cd\n\x7d").render false = "error: Parse error: " ++
        error.message ++ "\n  --> " ++ "<stdin>" ++ ":" ++ (toString 2 ++ ":" ++ toString 4) ++
        "\n\n" ++ report ∧
      Points report 2 "\tb cd" 3 2 ∧ Points account 2 "\tb cd" 6 2 := by
  have hblamed : Document.blamed? (lex "type A \x7b\n\tb cd\n\x7d") =
      some ⟨.text, ⟨1, 3⟩, "cd"⟩ := by
    decide +kernel
  have hlines : lines "type A \x7b\n\tb cd\n\x7d" = ["type A \x7b", "\tb cd", "\x7d"] := by
    decide +kernel
  obtain ⟨error, herror, htoken⟩ := Document.blamed?_eq_some_iff.mp hblamed
  obtain ⟨_, hcodes, account, report, line, blanks, haccount, hreport, hline, hcolumn, _, _,
    hreportPoints, haccountPoints⟩ := points_where_report_points none herror
  rw [htoken] at haccount hreport hline hcolumn hreportPoints haccountPoints
  rw [hlines] at hline hcolumn hreportPoints haccountPoints
  obtain rfl : "\tb cd" = line := by simpa using hline
  obtain rfl : blanks = 3 := by simpa using hcolumn
  exact ⟨error, account, report, herror, (hcodes (by decide +kernel)).trans haccount, hreport,
    hreportPoints, haccountPoints⟩

end Diagnostic

end SchemaGen
