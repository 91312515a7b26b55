import SchemaGen.Proofs.Grammar.Lookahead
import SchemaGen.Proofs.Report.Excerpt
import SchemaGen.Report.Syntax

namespace SchemaGen

namespace Report

open Text

/-- Among some rows one shows a line with its number, and the row directly below it has carets under
`count` of the characters of the line, from the one at `column` on, and nowhere else. -/
inductive Underlines (rows : String) (number : Nat) (line : String) (column count : Nat) : Prop
  | mk {above gutter carets below : String} {pad : Nat}
      (hrows : rows = above ++ (gutter ++ line) ++ "\n" ++ carets ++ "\n" ++ below)
      (habove : ∀ c ∈ above.toList.getLast?, c = '\n')
      (hgutter : gutter = copies pad ' ' ++ toString number ++ " | ")
      (hline : '\n' ∉ line.toList) (hcarets : '\n' ∉ carets.toList)
      (hmarks : ∀ i : Nat, carets.toList[i]? = some '^' ↔
        gutter.length + column ≤ i ∧ i < gutter.length + column + count)

theorem getElem?_append_carets {front : List Char} (hfront : '^' ∉ front) (count i : Nat) :
    (front ++ List.replicate count '^')[i]? = some '^' ↔
      front.length ≤ i ∧ i < front.length + count := by
  by_cases hlt : i < front.length
  · rw [List.getElem?_append_left hlt]
    refine ⟨fun hmark => absurd (List.mem_of_getElem? hmark) hfront, fun hbounds => ?_⟩
    omega
  · rw [List.getElem?_append_right (by omega), List.getElem?_replicate]
    split <;> simp <;> omega

theorem getLast?_join_contextRows (width : Nat) (shown : List (String × Nat)) :
    ∀ c ∈ (String.join (contextRows false width shown)).toList.getLast?, c = '\n' := by
  intro c hlast
  rcases List.eq_nil_or_concat' shown with rfl | ⟨front, entry, rfl⟩
  · simp [contextRows] at hlast
  · have hends : ∃ text,
        String.join (contextRows false width (front ++ [entry])) = text ++ "\n" := by
      refine ⟨String.join (contextRows false width front) ++
        (flushRight width (toString (entry.2 + 1)) ++ " | " ++ entry.1), ?_⟩
      simp only [contextRows, List.map_append, List.map_singleton, String.join_append,
        String.join_cons, String.join_nil, String.append_empty, sourceRow_plain,
        String.append_assoc]
    obtain ⟨text, htext⟩ := hends
    rw [htext, String.toList_append] at hlast
    simpa [eq_comm] using hlast

theorem excerpt_underlines {source line : String} {before behind : List String} (loc : Location)
    (hlines : lines source = before ++ line :: behind)
    (hindex : min loc.line (before.length + behind.length) = before.length) (carets : Nat)
    (below : String) :
    Underlines (excerpt false source loc carets ++ below) (before.length + 1) line
      (if loc.line = before.length then loc.column else line.length) carets := by
  generalize hwidth : gutterWidth before.length behind.length = width
  have hfits : (toString (before.length + 1)).length ≤ width := by
    rw [← hwidth]
    exact length_toString_le (by omega)
  have hexcerpt := excerpt_eq hlines hindex false carets
  simp only [hwidth, sourceRow_plain, caretRow_plain] at hexcerpt
  generalize (if loc.line = before.length then loc.column else line.length) = column at hexcerpt ⊢
  have hrows : excerpt false source loc carets ++ below =
      String.join (contextRows false width (before.zipIdx.drop (before.length - 2))) ++
        (flushRight width (toString (before.length + 1)) ++ " | " ++ line) ++ "\n" ++
        (copies width ' ' ++ " | " ++ copies column ' ' ++ copies carets '^') ++ "\n" ++
        (String.join (contextRows false width ((behind.zipIdx (before.length + 1)).take 2)) ++
          below) := by
    rw [hexcerpt]
    simp only [String.append_assoc]
  have hgutter : (flushRight width (toString (before.length + 1)) ++ " | ").length = width + 3 := by
    rw [String.length_append, length_flushRight hfits]
    rfl
  have hmem : line ∈ lines source := by simp [hlines]
  refine .mk hrows (getLast?_join_contextRows _ _) rfl (newline_not_mem_lines hmem) ?_ fun i => ?_
  · simp
  · have hmarks := @getElem?_append_carets
      (List.replicate width ' ' ++ [' ', '|', ' '] ++ List.replicate column ' ') (by simp) carets i
    rw [List.length_append, List.length_append, List.length_replicate, List.length_replicate]
      at hmarks
    rw [hgutter]
    simpa using hmarks

/-- A report is its message, the position it points at, an empty row, and behind that the excerpt
and the advice. -/
theorem render_report (error : SyntaxError) (file : Option String) (source : String) :
    let blamed := error.rootCause.token
    ∃ advice, (error.report file source).render false =
      "error: Parse error: " ++ error.message ++ "\n  --> " ++ file.getD "<stdin>" ++ ":" ++
        toString (blamed.loc.line + 1) ++ ":" ++ toString (blamed.loc.column + 1) ++ "\n\n" ++
        (excerpt false source blamed.loc (max blamed.width 1) ++ advice) := by
  refine ⟨remark false .green "suggestion:" error.rootCause.advice.suggestion ++
    remark false .cyan "help:" error.rootCause.advice.help, ?_⟩
  have htext (text : String) : toString text = text := rfl
  rw [← String.toList_inj]
  simp [SyntaxError.report, advising, pointingAt, render, pointer, surroundings, Terminal.paint,
    SyntaxError.loc, Location.shownLine, Location.shownColumn, htext]

end Report

namespace Document

open Text Report

theorem ofText_empty : ∃ document, ofText "" = .ok document := by
  have hlex : lex "" = [⟨.eof, {}, ""⟩] := Lexer.toList_nil {}
  rw [ofText, hlex]
  exact (exists_ofTokens_concat_iff [] rfl).mpr ⟨.top, rfl, .inl rfl⟩

theorem rootCause_mem_lex {source : String} {error : SyntaxError}
    (herror : ofText source = .error error) :
    error.rootCause.token ∈ lex source ∧ error.rootCause.token.kind ≠ .whitespace := by
  obtain ⟨front, eof, hlex, heof, _⟩ := closedOnce_lex source
  have hmem := rootCause_mem_significant herror
  rw [hlex, Cursor.closed_of_getLast? List.getLast?_concat heof, ← hlex] at hmem
  exact ⟨List.mem_of_mem_filter hmem, kind_ne_of_mem_significant hmem⟩

theorem lines_ne_nil_of_error {source : String} {error : SyntaxError}
    (herror : ofText source = .error error) : lines source ≠ [] := by
  refine lines_ne_nil ?_
  rintro rfl
  obtain ⟨document, hok⟩ := ofText_empty
  rw [hok] at herror
  cases herror

/-- What a token was read from is underlined in the line that holds it. -/
theorem excerpt_underlines_chunk {source : String} {token : Token} {before chunk after : List Char}
    (hsource : source.toList = before ++ chunk ++ after) (hloc : token.loc = Location.behind before)
    (hstands : token.StandsFor chunk) (hkind : token.kind ≠ .whitespace) (below : String) :
    ∃ line front back, (lines source)[token.loc.line]? = some line ∧
      line.toList = front ++ chunk ++ back ∧ front <:+ before ∧ back <+: after ∧
      front.length = token.loc.column ∧
      Underlines (excerpt false source token.loc (max token.width 1) ++ below)
        (token.loc.line + 1) line front.length chunk.length := by
  have hblank := hstands.isWhiteSpace_eq_false hkind
  have hcarets : max token.width 1 = chunk.length := by
    have hpositive := List.length_pos_iff.mpr hstands.chunk_ne_nil
    have hwidth := hstands.width_eq_of_fits fun hblanks => absurd hblanks hkind
    omega
  obtain ⟨line, back, hline, hback, hchars⟩ := exists_line hsource hstands.chunk_ne_nil
    (fun hnewline => absurd (hblank _ hnewline) (by decide))
    (fun hreturn => absurd (hblank _ hreturn) (by decide))
  rw [← hloc] at hline
  have hcolumn : (openLine before).length = token.loc.column := by rw [hloc, column_behind]
  refine ⟨line, openLine before, back, hline, hchars, openLine_suffix before, hback, hcolumn, ?_⟩
  obtain ⟨hlt, hget⟩ := List.getElem?_eq_some_iff.mp hline
  have hlines : lines source =
      (lines source).take token.loc.line ++ line :: (lines source).drop (token.loc.line + 1) := by
    rw [← hget, List.getElem_cons_drop, List.take_append_drop]
  have hlength : ((lines source).take token.loc.line).length = token.loc.line :=
    List.length_take_of_le (Nat.le_of_lt hlt)
  have hunderlines := excerpt_underlines token.loc hlines (by omega) chunk.length below
  rw [hlength, if_pos rfl, ← hcolumn] at hunderlines
  rw [hcarets]
  exact hunderlines

/-- Behind the last line the end of the file gets one caret. -/
theorem excerpt_underlines_end {source : String} (hne : lines source ≠ []) (below : String) :
    ∃ line, (lines source).getLast? = some line ∧
      Underlines (excerpt false source (.behind source.toList) 1 ++ below)
        (lines source).length line line.length 1 := by
  obtain ⟨others, last, hlines⟩ := (List.eq_nil_or_concat' (lines source)).resolve_left hne
  refine ⟨last, by rw [hlines, List.getLast?_concat], ?_⟩
  obtain ⟨hbehind, hcolumn⟩ := end_at_last_line hlines
  have hunderlines :=
    excerpt_underlines (.behind source.toList) hlines (by simpa using hbehind) 1 below
  have hshown : (if (Location.behind source.toList).line = others.length
      then (Location.behind source.toList).column else last.length) = last.length := by
    split
    · rename_i hline
      exact hcolumn hline
    · rfl
  rw [hshown] at hunderlines
  rw [hlines, List.length_append, List.length_singleton]
  exact hunderlines

/-- The report on a text that cannot be read names the position of the token to blame and underlines
that token. A token other than the end of file is underlined in the line that holds it, exactly
where the line shows the characters that it was read from. For the end of file there is one caret,
directly behind the last line. -/
theorem report_underlines_blamed {source : String} {error : SyntaxError} (file : Option String)
    (herror : ofText source = .error error) :
    let blamed := error.rootCause.token
    ∃ rows, (error.report file source).render false =
        "error: Parse error: " ++ error.message ++ "\n  --> " ++ file.getD "<stdin>" ++ ":" ++
          toString (blamed.loc.line + 1) ++ ":" ++ toString (blamed.loc.column + 1) ++ "\n\n" ++
          rows ∧
      (blamed.kind ≠ .eof → ∃ before chunk after,
        source.toList = before ++ chunk ++ after ∧ blamed.loc = Location.behind before ∧
        blamed.StandsFor chunk ∧
        ∃ line front back, (lines source)[blamed.loc.line]? = some line ∧
          line.toList = front ++ chunk ++ back ∧ front <:+ before ∧ back <+: after ∧
          front.length = blamed.loc.column ∧
          Underlines rows (blamed.loc.line + 1) line front.length chunk.length) ∧
      (blamed.kind = .eof → ∃ line, (lines source).getLast? = some line ∧
        Underlines rows (lines source).length line line.length 1) := by
  obtain ⟨hmem, hsignificant⟩ := rootCause_mem_lex herror
  obtain ⟨advice, hrender⟩ := render_report error file source
  refine ⟨_, hrender, fun hkind => ?_, fun hkind => ?_⟩
  · rcases eof_or_chunk_of_mem_lex hmem with heof | ⟨before, chunk, after, hsource, hloc, hstands⟩
    · exact absurd (congrArg Token.kind heof) hkind
    · exact ⟨before, chunk, after, hsource, hloc, hstands,
        excerpt_underlines_chunk hsource hloc hstands hsignificant advice⟩
  · rcases eof_or_chunk_of_mem_lex hmem with heof | ⟨_, _, _, _, _, hstands⟩
    · rw [heof]
      exact excerpt_underlines_end (lines_ne_nil_of_error herror) advice
    · exact absurd hkind hstands.kind_ne_eof

/-- With line ends of two characters, a word in the place of a colon is underlined where its line
shows it, and the end of a block that is left open is behind the last line that counts. -/
theorem report_underlines_blamed_two_lines :
    (∃ error rows, ofText "type A \x7b\r\n  b cd\r\n" = .error error ∧
      (error.report none "type A \x7b\r\n  b cd\r\n").render false = "error: Parse error: " ++
        error.message ++ "\n  --> " ++ "<stdin>" ++ ":" ++ toString 2 ++ ":" ++ toString 5 ++
        "\n\n" ++ rows ∧
      Underlines rows 2 "  b cd" 4 2) ∧
    ∃ error rows, ofText "type A \x7b\r\n" = .error error ∧
      (error.report (some "a.graphql") "type A \x7b\r\n").render false = "error: Parse error: " ++
        error.message ++ "\n  --> " ++ "a.graphql" ++ ":" ++ toString 2 ++ ":" ++ toString 1 ++
        "\n\n" ++ rows ∧
      Underlines rows 1 "type A \x7b" 8 1 := by
  constructor
  · have hblamed : blamed? (lex "type A \x7b\r\n  b cd\r\n") = some ⟨.text, ⟨1, 4⟩, "cd"⟩ := by
      decide +kernel
    have hlines : lines "type A \x7b\r\n  b cd\r\n" = ["type A \x7b", "  b cd"] := by decide +kernel
    obtain ⟨error, herror, htoken⟩ := blamed?_eq_some_iff.mp hblamed
    obtain ⟨rows, hrender, hchunk, _⟩ := report_underlines_blamed none herror
    rw [htoken] at hrender hchunk
    obtain ⟨_, chunk, _, _, _, hstands, line, front, _, hline, _, _, _, hcolumn, hunderlines⟩ :=
      hchunk (by simp)
    rw [hlines] at hline
    obtain rfl : "  b cd" = line := by simpa using hline
    have hwidth : 2 = chunk.length := hstands.width_eq_of_fits (by simp)
    rw [hcolumn, ← hwidth] at hunderlines
    exact ⟨error, rows, herror, hrender, hunderlines⟩
  · have hblamed : blamed? (lex "type A \x7b\r\n") = some ⟨.eof, ⟨1, 0⟩, ""⟩ := by
      decide +kernel
    have hlines : lines "type A \x7b\r\n" = ["type A \x7b"] := by decide +kernel
    obtain ⟨error, herror, htoken⟩ := blamed?_eq_some_iff.mp hblamed
    obtain ⟨rows, hrender, _, hend⟩ := report_underlines_blamed (some "a.graphql") herror
    rw [htoken] at hrender hend
    obtain ⟨line, hline, hunderlines⟩ := hend rfl
    rw [hlines] at hline hunderlines
    obtain rfl : "type A \x7b" = line := by simpa using hline
    exact ⟨error, rows, herror, hrender, hunderlines⟩

end Document

end SchemaGen
