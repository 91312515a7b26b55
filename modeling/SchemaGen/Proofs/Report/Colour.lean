import SchemaGen.Proofs.Report.Excerpt
import SchemaGen.Proofs.Terminal.Span

namespace SchemaGen

namespace Report

open Terminal Text

/-- The texts that a report is made of. -/
def texts (report : Report) : List String :=
  report.message :: (report.file.toList ++ report.source.toList ++ report.suggestion.toList ++
    report.help.toList)

theorem forall_mem_texts {report : Report} {p : String → Prop} :
    (∀ text ∈ report.texts, p text) ↔ p report.message ∧ (∀ file ∈ report.file, p file) ∧
      (∀ source ∈ report.source, p source) ∧ (∀ suggestion ∈ report.suggestion, p suggestion) ∧
      ∀ help ∈ report.help, p help := by
  simp only [texts, List.forall_mem_cons, List.forall_mem_append, Option.mem_toList,
    Option.mem_def, and_assoc]

theorem painted_blank : Painted fun _ => " " :=
  painted_plain (by decide)

theorem painted_lineEnd : Painted fun _ => "\n" :=
  painted_plain (by decide)

/-- The bar between the numbers and the lines. -/
theorem painted_bar : Painted fun colour => paint colour .blue "|" :=
  painted_paint .blue (by decide)

theorem painted_sourceRow {line : String} (hline : '\x1b' ∉ line.toList) (width number : Nat)
    (style : Style) : Painted fun colour => sourceRow colour width number style line := by
  have hnumber : '\x1b' ∉ (flushRight width (toString number)).toList := by
    simpa [flushRight] using not_mem_toDigits (by decide) number
  exact (painted_paint style hnumber).append painted_blank |>.append painted_bar
    |>.append painted_blank |>.append (painted_plain hline) |>.append painted_lineEnd

theorem painted_caretRow (width column carets : Nat) :
    Painted fun colour => caretRow colour width column carets := by
  have hcopies (count : Nat) {c : Char} (hc : '\x1b' ≠ c) : '\x1b' ∉ (copies count c).toList := by
    simp [hc]
  have hgutter : '\x1b' ∉ (flushRight width "").toList := by
    simp [flushRight]
  exact (painted_plain hgutter).append painted_blank |>.append painted_bar
    |>.append painted_blank |>.append (painted_plain (hcopies column (by decide)))
    |>.append (painted_paint .red (hcopies carets (by decide))) |>.append painted_lineEnd

/-- Every row of an excerpt is painted, the one that the report points at as well as the others. -/
theorem painted_excerpt {source : String} (hsource : '\x1b' ∉ source.toList) (loc : Location)
    (carets : Nat) : Painted fun colour => excerpt colour source loc carets := by
  unfold excerpt
  cases hline : (lines source)[min loc.line ((lines source).length - 1)]? with
  | none =>
    simp only [hline]
    exact painted_plain (by decide)
  | some line =>
    simp only [hline]
    refine painted_join fun (text, i) hmem => ?_
    have htext : '\x1b' ∉ text.toList := by
      have hshown := List.mem_of_mem_take (List.mem_of_mem_drop hmem)
      have hlines := List.mem_of_getElem? (List.mk_mem_zipIdx_iff_getElem?.mp hshown)
      exact fun hescape => hsource (mem_source_of_mem_lines hlines hescape)
    by_cases hindex : i = min loc.line ((lines source).length - 1)
    · simp only [if_pos hindex]
      exact (painted_sourceRow htext _ _ _).append (painted_caretRow _ _ _)
    · simp only [if_neg hindex]
      exact painted_sourceRow htext _ _ _

theorem painted_remark {title : String} (htitle : '\x1b' ∉ title.toList) {text? : Option String}
    (htext : ∀ text ∈ text?, '\x1b' ∉ text.toList) (style : Style) :
    Painted fun colour => remark colour style title text? := by
  cases text? with
  | none => exact painted_plain (by decide)
  | some text =>
    exact painted_lineEnd.append (painted_paint style htitle) |>.append painted_blank
      |>.append (painted_plain (htext text rfl)) |>.append painted_lineEnd

theorem painted_pointer {report : Report} (hfile : ∀ file ∈ report.file, '\x1b' ∉ file.toList) :
    Painted fun colour => report.pointer colour := by
  unfold pointer
  cases report.loc with
  | none => exact painted_plain (by decide)
  | some loc =>
    have hname : '\x1b' ∉ (report.file.getD "<stdin>").toList := by
      cases hfound : report.file with
      | none => decide
      | some file => exact hfile file hfound
    have hdigits := @not_mem_toDigits '\x1b' (by decide)
    exact (painted_plain (by decide)).append (painted_paint .blue (by decide))
      |>.append painted_blank |>.append (painted_plain hname)
      |>.append (painted_plain (by simp [toString_text, hdigits]))

theorem painted_surroundings {report : Report}
    (hsource : ∀ source ∈ report.source, '\x1b' ∉ source.toList) :
    Painted fun colour => report.surroundings colour := by
  unfold surroundings
  cases hfound : report.source with
  | none => exact painted_plain (by decide)
  | some source =>
    cases report.loc with
    | none => exact painted_plain (by decide)
    | some loc =>
      exact painted_lineEnd.append (painted_excerpt (hsource source hfound) loc _)

/-- Where no text of a report holds an escape character, deleting every escape sequence from the
report in colour leaves the plain report, whatever else the report has or lacks. -/
theorem render_coloured_withoutCodes {report : Report}
    (hplain : ∀ text ∈ report.texts, '\x1b' ∉ text.toList) :
    withoutCodes (report.render true) = report.render false := by
  obtain ⟨hmessage, hfile, hsource, hsuggestion, hhelp⟩ := forall_mem_texts.mp hplain
  have hrender : Painted fun colour => report.render colour :=
    (painted_paint .red (by decide)).append painted_blank
      |>.append (painted_paint .bold hmessage) |>.append painted_lineEnd
      |>.append (painted_pointer hfile) |>.append (painted_surroundings hsource)
      |>.append (painted_remark (by decide) hsuggestion .green)
      |>.append (painted_remark (by decide) hhelp .cyan)
  exact hrender.withoutCodes_eq

/-- A report with all its parts, on a position behind the last line. Words that look like the rest
of an escape sequence stay where they are. -/
theorem render_coloured_withoutCodes_all_parts :
    ∃ report : Report, report.message = "[1m" ∧ report.loc = some ⟨7, 3⟩ ∧
      report.source = some "m\n[0m\n" ∧
      (∀ text ∈ report.texts, '\x1b' ∉ text.toList) ∧ '\x1b' ∈ (report.render true).toList ∧
      withoutCodes (report.render true) = report.render false := by
  let report : Report :=
    { message := "[1m", loc := some ⟨7, 3⟩, width := 2, file := some "a", source := some "m\n[0m\n",
      suggestion := some "b", help := some "c" }
  have hplain : ∀ text ∈ report.texts, '\x1b' ∉ text.toList := by decide
  exact ⟨report, rfl, rfl, rfl, hplain, by decide +kernel, render_coloured_withoutCodes hplain⟩

end Report

end SchemaGen
