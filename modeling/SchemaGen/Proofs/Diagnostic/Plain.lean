import SchemaGen.Diagnostic
import SchemaGen.Proofs.Grammar.RootCause
import SchemaGen.Proofs.Report.Excerpt
import SchemaGen.Proofs.Terminal.Span

namespace SchemaGen

theorem TokenKind.escape_not_mem_expectedName (kind : TokenKind) :
    '\x1b' ∉ kind.expectedName.toList := by
  cases kind <;> decide

namespace Token

theorem StandsFor.escape_not_mem {token : Token} {chunk : List Char}
    (hstands : token.StandsFor chunk) (hchunk : '\x1b' ∉ chunk) :
    '\x1b' ∉ token.value.toList := by
  cases hstands with
  | text _ _ => simpa using hchunk
  | whitespace _ _ => simpa using Text.not_mem_toDigits (by decide) chunk.length
  | symbol _ => simp
  | @error _ c _ _ _ =>
    have hc : (toString c).toList = [c] := String.toList_singleton c
    simpa [hc, Text.toString_text] using hchunk

theorem escape_not_mem_displayName {token : Token} (hvalue : '\x1b' ∉ token.value.toList) :
    '\x1b' ∉ token.displayName.toList := by
  unfold displayName
  split
  · simp [Text.toString_text, hvalue]
  · simp [Text.toString_text, hvalue]
  · exact TokenKind.escape_not_mem_expectedName _

theorem escape_not_mem_value {source : String} {token : Token} (hsource : '\x1b' ∉ source.toList)
    (hmem : token ∈ lex source) : '\x1b' ∉ token.value.toList := by
  rcases eof_or_chunk_of_mem_lex hmem with rfl | ⟨before, chunk, after, hchunks, _, hstands⟩
  · simp
  · refine hstands.escape_not_mem fun hmem => hsource ?_
    simp [hchunks, hmem]

end Token

theorem SyntaxError.escape_not_mem_position (token : Token) :
    '\x1b' ∉ (position token).toList := by
  have hdigits := @Text.not_mem_toDigits '\x1b' (by decide)
  simp [position, Text.toString_text, hdigits]

namespace Grammar

theorem Place.escape_not_mem_phrase (place : Place) : '\x1b' ∉ place.wanted.phrase.toList := by
  cases place with
  | top | target | onWord => decide
  | typeStart owner => simp [wanted, Wanted.phrase]
  | typeEnd owner | typeMarked owner =>
    cases owner <;> exact TokenKind.escape_not_mem_expectedName _
  | _ => exact TokenKind.escape_not_mem_expectedName _

theorem Place.escape_not_mem_message (place : Place) {token : Token}
    (hvalue : '\x1b' ∉ token.value.toList) :
    '\x1b' ∉ (place.complaint token).message.toList := by
  have hname := Token.escape_not_mem_displayName hvalue
  have hposition := SyntaxError.escape_not_mem_position token
  by_cases hkind : token.kind = .error
  · rw [complaint_of_error hkind]
    unfold SyntaxError.message
    simp [hvalue, hposition]
  · by_cases hbrackets : place.MindsBrackets token
    · rw [complaint_of_mindsBrackets hkind hbrackets]
      unfold SyntaxError.message
      split <;> simp [Text.toString_text, hname, hposition]
    · rw [complaint_of_not_mindsBrackets hkind hbrackets]
      unfold SyntaxError.message
      simp [Text.toString_text, hname, hposition, place.escape_not_mem_phrase]

end Grammar

/-- A message holds no escape character that the source does not hold. -/
theorem Document.escape_not_mem_message {source : String} {error : SyntaxError}
    (herror : ofText source = .error error) (hsource : '\x1b' ∉ source.toList) :
    '\x1b' ∉ error.message.toList := by
  have hfailure := failure_of_closedOnce (closedOnce_lex source) herror
  cases hfailure with
  | @mk whole after read later halt token ending stop hwhole _ _ _ hread _ _ _ _ =>
    have hvalue (token : Token) (hmem : token ∈ significant (lex source)) :=
      Token.escape_not_mem_value hsource (List.mem_of_mem_filter hmem)
    have hhalt := Token.escape_not_mem_displayName (hvalue halt (by simp [hwhole]))
    have hcause := stop.escape_not_mem_message (hvalue token (by simp [hread]))
    unfold SyntaxError.message
    simp [Text.toString_text, hhalt, hcause, SyntaxError.escape_not_mem_position]

namespace Diagnostic

open Terminal Text

/-- The row of a line and the row below it, span by span. -/
def rowSpans (index : Nat) (line : String) (column carets : Nat) (note : String) : List Span :=
  let width := max (toString (index + 2)).length 2
  [⟨none, " " ++ flushRight width (toString (index + 1)) ++ " "⟩, ⟨some .blue, "|"⟩,
    ⟨none, " " ++ line ++ "\n " ++ flushRight width "" ++ " "⟩, ⟨some .blue, "|"⟩,
    ⟨none, " " ++ copies column ' '⟩, ⟨some .red, copies carets '^'⟩, ⟨none, " " ++ note ++ "\n"⟩]

/-- The offending line and the carets, span by span. -/
def excerptSpans (source : String) (cause : SyntaxError) : List Span :=
  let index := shownIndex (lines source) cause.loc
  match (lines source)[index]? with
  | none => []
  | some line =>
    rowSpans index line (visualColumn line (shownColumn (lines source) cause.loc line))
      cause.token.width (label cause)

/-- The whole account, span by span. -/
def spans (source : String) (error : SyntaxError) : List Span :=
  let loc := error.rootCause.loc
  [⟨some .red, "error"⟩, ⟨none, ": " ++ error.message ++ "\n  "⟩, ⟨some .blue, "-->"⟩,
    ⟨none, " line " ++ toString loc.shownLine ++ ":" ++ toString loc.shownColumn ++ "\n   "⟩,
    ⟨some .blue, "|"⟩, ⟨none, "\n"⟩] ++
  excerptSpans source error.rootCause ++ [⟨none, "   "⟩, ⟨some .blue, "|"⟩, ⟨none, "\n"⟩]

theorem excerpt_eq_written (source : String) (cause : SyntaxError) :
    excerpt source cause = written true (excerptSpans source cause) := by
  unfold excerpt excerptSpans
  cases hline : (lines source)[shownIndex (lines source) cause.loc]? with
  | none =>
    simp only [hline]
    rfl
  | some line =>
    simp only [hline]
    rw [← String.toList_inj]
    simp [rowSpans, written, Span.written, paint, bar]

theorem render_eq_written (source : String) (error : SyntaxError) :
    render source error = written true (spans source error) := by
  rw [← String.toList_inj]
  simp [render, spans, written, Span.written, paint, bar, excerpt_eq_written, toString_text]

theorem escape_not_mem_rowSpans {line note : String} (hline : '\x1b' ∉ line.toList)
    (hnote : '\x1b' ∉ note.toList) (index column carets : Nat) :
    ∀ span ∈ rowSpans index line column carets note, '\x1b' ∉ span.text.toList := by
  have hdigits := @not_mem_toDigits '\x1b' (by decide)
  simp [rowSpans, flushRight, hline, hnote, hdigits]

/-- Where the source holds no escape character, deleting the escape sequences from the account
leaves its spans without their styles. -/
theorem withoutCodes_render {source : String} {error : SyntaxError}
    (herror : Document.ofText source = .error error) (hsource : '\x1b' ∉ source.toList) :
    withoutCodes (render source error) = written false (spans source error) := by
  have hmessage := Document.escape_not_mem_message herror hsource
  have hdigits := @not_mem_toDigits '\x1b' (by decide)
  have hexcerpt : ∀ span ∈ excerptSpans source error.rootCause, '\x1b' ∉ span.text.toList := by
    intro span hmem
    simp only [excerptSpans] at hmem
    split at hmem
    · cases hmem
    · rename_i line hline
      refine escape_not_mem_rowSpans (fun hescape => hsource ?_) ?_ _ _ _ span hmem
      · exact mem_source_of_mem_lines (List.mem_of_getElem? hline) hescape
      · unfold label
        split <;> decide
  rw [render_eq_written]
  refine withoutCodes_written fun span hmem => ?_
  rw [spans, List.mem_append, List.mem_append] at hmem
  rcases hmem with (hmem | hmem) | hmem
  · revert span
    simp [hmessage, hdigits]
  · exact hexcerpt span hmem
  · revert span
    simp

end Diagnostic

end SchemaGen
