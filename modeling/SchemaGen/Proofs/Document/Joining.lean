import SchemaGen.Proofs.Document.Layout
import SchemaGen.Proofs.Token.Shift

namespace SchemaGen

open Grammar

namespace Lexer

/-- White space leaves no trace among the significant tokens, also if more of it follows. -/
theorem significant_toList_skip {blanks : List Char} (hblanks : blanks.all Text.isWhiteSpace = true)
    (rest : List Char) (loc : Location) :
    significant (reading loc (blanks ++ rest)).toList =
      significant (reading (loc.after blanks) rest).toList := by
  have hmore : (rest.takeWhile Text.isWhiteSpace).all Text.isWhiteSpace = true :=
    List.all_takeWhile
  have hsplit : rest = rest.takeWhile Text.isWhiteSpace ++ rest.dropWhile Text.isWhiteSpace :=
    List.takeWhile_append_dropWhile.symm
  calc significant (reading loc (blanks ++ rest)).toList
    _ = significant (reading loc ((blanks ++ rest.takeWhile Text.isWhiteSpace) ++
          rest.dropWhile Text.isWhiteSpace)).toList := by rw [List.append_assoc, ← hsplit]
    _ = significant (reading ((loc.after blanks).after (rest.takeWhile Text.isWhiteSpace))
          (rest.dropWhile Text.isWhiteSpace)).toList := by
      rw [significant_toList_blanks (by rw [List.all_append, hblanks, hmore]; rfl) head?_dropWhile,
        Location.after_append]
    _ = significant (reading (loc.after blanks) rest).toList := by
      rw [← significant_toList_blanks hmore head?_dropWhile, ← hsplit]

/-- Any other token that is not prolonged is one of them. -/
theorem significant_toList_of_standsFor {token : Token} {chunk behind : List Char}
    (hstands : token.StandsFor chunk) (hends : token.EndsBefore behind)
    (hkind : token.kind ≠ .whitespace) :
    significant (reading token.loc (chunk ++ behind)).toList =
      token :: significant (reading (token.loc.after chunk) behind).toList := by
  rw [toList_of_standsFor hstands hends, ← List.singleton_append, significant_append,
    significant_singleton hkind, List.singleton_append]

/-- Where no name goes on, the significant tokens of a text are those in front, up to their end of
file, and those behind. -/
theorem significant_toList_append {front back : List Char} (hparted : Parted front back)
    (loc : Location) : ∃ tokens eof,
      significant (reading loc front).toList = tokens ++ [eof] ∧
      significant (reading loc (front ++ back)).toList =
        tokens ++ significant (reading (loc.after front) back).toList := by
  induction hlength : front.length using Nat.strongRecOn generalizing front loc with
  | ind length ih =>
    cases front with
    | nil => exact ⟨[], _, by rw [toList_nil]; rfl, rfl⟩
    | cons c rest =>
      obtain ⟨token, chunk, behind, hsplit, hnext, rfl, hstands, hends⟩ :=
        next?_standsFor loc c rest
      have hshorter : behind.length < length := by
        have hpos := List.length_pos_iff.mpr hstands.chunk_ne_nil
        rw [← hlength, hsplit, List.length_append]
        omega
      rw [hsplit] at hparted ⊢
      obtain ⟨tokens, eof, hfront, hwhole⟩ :=
        ih behind.length hshorter hparted.of_append (token.loc.after chunk) rfl
      rw [List.append_assoc, Location.after_append]
      by_cases hkind : token.kind = .whitespace
      · have hblanks : chunk.all Text.isWhiteSpace = true :=
          List.all_eq_true.mpr (hstands.isWhiteSpace_of_mem hkind)
        refine ⟨tokens, eof, ?_, ?_⟩
        · rw [significant_toList_skip hblanks, hfront]
        · rw [significant_toList_skip hblanks, hwhole]
      · refine ⟨token :: tokens, eof, ?_, ?_⟩
        · rw [significant_toList_of_standsFor hstands hends hkind, hfront, List.cons_append]
        · rw [significant_toList_of_standsFor hstands (hends.append hstands hparted hkind) hkind,
            hwhole, List.cons_append]

end Lexer

namespace Grammar

theorem relabels_shift (start : Location) : Relabels start.shift id (Token.shift start) where
  kind_eq _ := rfl
  loc_eq _ := rfl
  value_eq _ := rfl
  keyword_eq _ := rfl

theorem alike_shift (start : Location) (token : Token) : Alike token (token.shift start) where
  kind_eq := rfl
  isWord_iff _ := Iff.rfl

end Grammar

/-- White space between two texts leaves the significant tokens of the first and then, as far behind
as the second text stands, those of the second. -/
theorem significant_lex_join {first blanks : String} (hne : blanks ≠ "")
    (hblanks : blanks.toList.all Text.isWhiteSpace = true) (second : String) : ∃ tokens eof,
      significant (lex first) = tokens ++ [eof] ∧
      significant (lex (first ++ blanks ++ second)) = tokens ++
        (significant (lex second)).map (Token.shift (.behind (first ++ blanks).toList)) := by
  have hparted : Parted first.toList (blanks.toList ++ second.toList) := by
    intro _ _ d hhead
    rw [List.head?_append_of_ne_nil _ (String.toList_eq_nil_iff.not.mpr hne)] at hhead
    have hblank := List.all_eq_true.mp hblanks d (List.mem_of_mem_head? hhead)
    exact .inr (isNameChar_of_isWhiteSpace hblank).1
  obtain ⟨tokens, eof, hfirst, hwhole⟩ := Lexer.significant_toList_append hparted (.behind [])
  refine ⟨tokens, eof, hfirst, ?_⟩
  rw [Location.after_behind, Lexer.significant_toList_skip hblanks, Location.after_behind,
    Lexer.toList_reading, significant_map_of_alike fun token _ => alike_shift _ token] at hwhole
  rw [lex, Lexer.ofText, String.toList_append, String.toList_append, List.append_assoc]
  exact hwhole

namespace Document

/-- The document of a text that is moved to another start. -/
def shift (start : Location) (document : Document) : Document :=
  document.relabel start.shift id

/-- The definitions of two documents, one behind the other. The first document says where they
stand, unless it has none. -/
def join (document next : Document) : Document where
  loc := if document.definitions = [] then next.loc else document.loc
  definitions := document.definitions ++ next.definitions

end Document

namespace Grammar

theorem Repeated.append {α : Type} {part : List Token → α → Prop} {front back : List Token}
    {values moreValues : List α} (hfront : Repeated part front values)
    (hback : Repeated part back moreValues) :
    Repeated part (front ++ back) (values ++ moreValues) := by
  induction hfront with
  | none => exact hback
  | more hpart _ ih =>
    rw [List.append_assoc, List.cons_append]
    exact .more hpart ih

/-- What spells one document and then another one spells their join. -/
theorem IsDocument.join {tokens stream : List Token} {eof : Token} {document next : Document}
    (hdocument : IsDocument (tokens ++ [eof]) document) (hnext : IsDocument stream next) :
    IsDocument (tokens ++ stream) (document.join next) := by
  obtain ⟨loc, definitions⟩ := document
  obtain ⟨_, hdefinitions, rfl⟩ := isDocument_concat_iff.mp hdocument
  have hstream := hnext
  obtain @⟨later, last, first, more, hmore, hlast, _⟩ := hnext
  rw [← List.append_assoc, isDocument_concat_iff]
  refine ⟨hlast, hdefinitions.append hmore, ?_⟩
  -- The join stands at its first token, which is one of the first document if it has a definition.
  cases hdefinitions with
  | none => exact (isDocument_concat_iff.mp hstream).2.2
  | more hdefinition _ => cases hdefinition <;> rfl

end Grammar

namespace Document

/-- Reading turns joined texts into joined documents. If two texts are read, then with some white
space between them they are read as the join of their documents, the second one moved to the end of
the first text and the white space. -/
theorem ofText_join {first blanks second : String} {document next : Document}
    (hfirst : ofText first = .ok document) (hsecond : ofText second = .ok next) (hne : blanks ≠ "")
    (hblanks : blanks.toList.all Text.isWhiteSpace = true) :
    ofText (first ++ blanks ++ second) =
      .ok (document.join (next.shift (.behind (first ++ blanks).toList))) := by
  rw [ofText_eq_ok_iff] at *
  obtain ⟨tokens, eof, hfront, hwhole⟩ := significant_lex_join hne hblanks second
  rw [hfront] at hfirst
  rw [hwhole]
  exact hfirst.join (hsecond.relabel (relabels_shift _))

/-- The list of targets is open at the end of the first text, and blank runs meet on both sides of
the white space. Only on the first line of the second text do columns move. -/
theorem ofText_join_open_targets :
    ofText "directive @a on B\n" = .ok ⟨⟨0, 0⟩, [.directiveDef ⟨⟨0, 0⟩, "a", ["B"]⟩]⟩ ∧
    ofText " type C\x7b\nd: E\x7d" = .ok ⟨⟨0, 1⟩, [.typeDef ⟨⟨0, 1⟩, "C",
      [⟨⟨1, 0⟩, "d", ⟨⟨1, 3⟩, "E", false, false, false⟩, [], []⟩], false⟩]⟩ ∧
    ofText ("directive @a on B\n" ++ " " ++ " type C\x7b\nd: E\x7d") = .ok ⟨⟨0, 0⟩,
      [.directiveDef ⟨⟨0, 0⟩, "a", ["B"]⟩, .typeDef ⟨⟨1, 2⟩, "C",
        [⟨⟨2, 0⟩, "d", ⟨⟨2, 3⟩, "E", false, false, false⟩, [], []⟩], false⟩]⟩ := by
  have hfirst : ofText "directive @a on B\n" =
      .ok ⟨⟨0, 0⟩, [.directiveDef ⟨⟨0, 0⟩, "a", ["B"]⟩]⟩ := by
    decide +kernel
  have hsecond : ofText " type C\x7b\nd: E\x7d" = .ok ⟨⟨0, 1⟩, [.typeDef ⟨⟨0, 1⟩, "C",
      [⟨⟨1, 0⟩, "d", ⟨⟨1, 3⟩, "E", false, false, false⟩, [], []⟩], false⟩]⟩ := by
    decide +kernel
  exact ⟨hfirst, hsecond, ofText_join hfirst hsecond (by decide) (by decide)⟩

end Document

end SchemaGen
