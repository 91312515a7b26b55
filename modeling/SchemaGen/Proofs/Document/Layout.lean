import Mathlib.Data.List.Chain
import SchemaGen.Proofs.Document.Spelling

namespace SchemaGen

open Grammar

/-- The characters of a token that can be written. -/
def Token.chars (token : Token) : List Char :=
  match token.kind.symbol with
  | some c => [c]
  | none => token.value.toList

/-- Between two words in a row there is some white space. -/
def KeptApart (pieces : List (Token × List Char)) : Prop :=
  pieces.IsChain fun piece next => piece.1.kind = .text → next.1.kind = .text → piece.2 ≠ []

/-- Tokens, each with the white space behind it, and the white space in front of them all. -/
structure Layout where
  lead : List Char
  pieces : List (Token × List Char)
  lead_blank : lead.all Text.isWhiteSpace = true
  gap_blank : ∀ piece ∈ pieces, piece.2.all Text.isWhiteSpace = true
  apart : KeptApart pieces

/-- The characters of some tokens and of the white space behind each. -/
def piecesChars (pieces : List (Token × List Char)) : List Char :=
  pieces.flatMap fun piece => piece.1.chars ++ piece.2

namespace Layout

def tokens (layout : Layout) : List Token := layout.pieces.map Prod.fst

/-- The text that a layout gives. -/
def text (layout : Layout) : String :=
  String.ofList (layout.lead ++ piecesChars layout.pieces)

end Layout

theorem Token.Spellable.kind_ne {token : Token} (hspellable : token.Spellable) :
    token.kind ≠ .whitespace := by
  intro hkind
  rcases hspellable with ⟨c, hsymbol⟩ | ⟨htext, _⟩
  · rw [hkind] at hsymbol
    cases hsymbol
  · rw [hkind] at htext
    cases htext

/-- A word is written in name characters. -/
theorem Token.Spellable.exists_chars {token : Token} (hspellable : token.Spellable)
    (hkind : token.kind = .text) : ∃ c run, token.chars = c :: run ∧
      token.value = String.ofList (c :: run) ∧ ∀ d ∈ c :: run, isNameChar d = true := by
  have hchars : token.chars = token.value.toList := by simp [chars, hkind, TokenKind.symbol]
  obtain ⟨hne, hnames⟩ : IsIdentifier token.value := by
    rcases hspellable with ⟨c, hsymbol⟩ | ⟨_, hidentifier⟩
    · rw [hkind] at hsymbol
      cases hsymbol
    · exact hidentifier
  rw [hchars]
  cases hlist : token.value.toList with
  | nil => exact absurd (String.toList_eq_nil_iff.mp hlist) hne
  | cons c run =>
    refine ⟨c, run, rfl, ?_, List.all_eq_true.mp (hlist ▸ hnames)⟩
    rw [← hlist, String.ofList_toList]

/-- A token is not written with white space in front. -/
theorem Token.Spellable.head_chars {token : Token} (hspellable : token.Spellable)
    (rest : List Char) : ∀ c ∈ (token.chars ++ rest).head?, Text.isWhiteSpace c = false := by
  intro c hhead
  by_cases hkind : token.kind = .text
  · obtain ⟨first, run, hchars, _, hnames⟩ := hspellable.exists_chars hkind
    rw [hchars] at hhead
    obtain rfl : first = c := by simpa using hhead
    exact isWhiteSpace_of_isNameChar (hnames first (.head _))
  · obtain ⟨symbol, hsymbol⟩ := hspellable.resolve_right (fun hword => hkind hword.1)
    rw [chars, hsymbol] at hhead
    obtain rfl : symbol = c := by simpa using hhead
    exact (isNameChar_of_symbol hsymbol).2

namespace Lexer

/-- White space leaves no trace among the significant tokens. -/
theorem significant_toList_blanks {blanks rest : List Char}
    (hblanks : blanks.all Text.isWhiteSpace = true)
    (hrest : ∀ c ∈ rest.head?, Text.isWhiteSpace c = false) (loc : Location) :
    significant (reading loc (blanks ++ rest)).toList =
      significant (reading (loc.after blanks) rest).toList := by
  cases blanks with
  | nil => rfl
  | cons c run =>
    rw [toList_blanks (List.all_eq_true.mp hblanks) hrest]
    rfl

/-- A token is found again, if what follows does not prolong it. -/
theorem toList_chars {token : Token} {rest : List Char} (hspellable : token.Spellable)
    (hrest : token.kind = .text → ∀ c ∈ rest.head?, isNameChar c = false) (loc : Location) :
    ∃ found, bare found = bare token ∧ (reading loc (token.chars ++ rest)).toList =
      found :: (reading (loc.after token.chars) rest).toList := by
  by_cases hkind : token.kind = .text
  · obtain ⟨first, run, hchars, hvalue, hnames⟩ := hspellable.exists_chars hkind
    rw [hchars]
    refine ⟨_, ?_, toList_name hnames (hrest hkind) loc⟩
    rw [← hvalue]
    simp [bare, hkind]
  · obtain ⟨symbol, hsymbol⟩ := hspellable.resolve_right (fun hword => hkind hword.1)
    have hchars : token.chars = [symbol] := by simp [Token.chars, hsymbol]
    rw [hchars]
    refine ⟨_, ?_, toList_symbol hsymbol loc rest⟩
    simp [bare, hkind]

/-- Behind a word there stands white space, punctuation or nothing. -/
theorem head_piecesChars {token : Token} {gap : List Char} {pieces : List (Token × List Char)}
    (hspellable : ∀ piece ∈ pieces, piece.1.Spellable)
    (hgap : gap.all Text.isWhiteSpace = true)
    (hapart : KeptApart ((token, gap) :: pieces)) (hkind : token.kind = .text) :
    ∀ c ∈ (gap ++ piecesChars pieces).head?, isNameChar c = false := by
  intro c hhead
  cases gap with
  | cons blank gap =>
    obtain rfl : blank = c := by simpa using hhead
    exact (isNameChar_of_isWhiteSpace (List.all_eq_true.mp hgap blank (.head _))).1
  | nil =>
    cases pieces with
    | nil => cases hhead
    | cons piece pieces =>
      have hnext : piece.1.kind ≠ .text := fun htext =>
        (List.isChain_cons_cons.mp hapart).1 hkind htext rfl
      obtain ⟨symbol, hsymbol⟩ :=
        (hspellable piece (.head _)).resolve_right (fun hword => hnext hword.1)
      obtain rfl : symbol = c := by
        simpa [piecesChars, Token.chars, hsymbol] using hhead
      exact (isNameChar_of_symbol hsymbol).1

/-- The lexer finds the tokens of a layout again. -/
theorem significant_toList_pieces {pieces : List (Token × List Char)} {lead : List Char}
    (hspellable : ∀ piece ∈ pieces, piece.1.Spellable)
    (hlead : lead.all Text.isWhiteSpace = true)
    (hgaps : ∀ piece ∈ pieces, piece.2.all Text.isWhiteSpace = true)
    (hapart : KeptApart pieces) (loc : Location) :
    (significant (reading loc (lead ++ piecesChars pieces)).toList).map bare =
      pieces.map (fun piece => bare piece.1) ++ [Place.sign .eof] := by
  induction pieces generalizing lead loc with
  | nil =>
    rw [significant_toList_blanks hlead (by simp [piecesChars])]
    simp [piecesChars, significant, bare, Place.sign]
  | cons piece pieces ih =>
    obtain ⟨token, gap⟩ := piece
    rw [List.forall_mem_cons] at hspellable hgaps
    have hchars : piecesChars ((token, gap) :: pieces) =
        token.chars ++ (gap ++ piecesChars pieces) := by
      simp [piecesChars]
    rw [hchars, significant_toList_blanks hlead (hspellable.1.head_chars _)]
    obtain ⟨found, hfound, hlist⟩ := toList_chars hspellable.1
      (head_piecesChars hspellable.2 hgaps.1 hapart) (loc.after lead)
    have hkind : found.kind ≠ .whitespace := by
      have hsame : (bare found).kind = (bare token).kind := congrArg Token.kind hfound
      exact fun hblank => hspellable.1.kind_ne (hsame.symm.trans hblank)
    have hmore := ih hspellable.2 hgaps.1 hgaps.2 (List.IsChain.tail hapart)
      ((loc.after lead).after token.chars)
    rw [hlist, ← List.singleton_append, significant_append, significant_singleton hkind,
      List.map_append, hmore]
    simp [hfound]

end Lexer

namespace Document

/-- What tokens spell does not depend on where they stand. -/
theorem exists_ofTokens_of_map_bare {document : Document} {tokens spelled : List Token}
    (hspelled : document.SpelledBy spelled)
    (hbare : (significant (Cursor.closed tokens)).map bare =
      spelled.map bare ++ [Place.sign .eof]) :
    ∃ read, ofTokens tokens = .ok read ∧ read.unlocated = document.unlocated := by
  obtain ⟨located, hlocated, hsame⟩ := hspelled
  have hspells : IsDocument (spelled.map bare ++ [Place.sign .eof]) located.unlocated := by
    rw [show [Place.sign .eof] = [Place.sign .eof].map bare from rfl, ← List.map_append]
    exact hlocated.relabel relabels_bare
  have hsignificant : significant (spelled.map bare ++ [Place.sign .eof]) =
      spelled.map bare ++ [Place.sign .eof] := by
    rw [← hbare, ← significant_map_of_alike (fun token _ => alike_bare token),
      significant_of_start (List.prefix_refl _)]
  obtain ⟨stop, hrun, hfinal⟩ := (exists_repeated_isDefinition_iff
    (significant_of_start (hsignificant.symm ▸ List.prefix_append ..))).mp
    ((exists_isDocument_iff rfl).mp ⟨_, hspells⟩)
  have hread : ∃ read, ofTokens tokens = .ok read := by
    obtain ⟨front, eof, hfront, heof⟩ := (Cursor.valid_ofTokens tokens).rest_ends
    rw [Cursor.rest_ofTokens] at hfront
    rw [hfront, List.map_append] at hbare
    refine exists_ofTokens_eq_ok_iff.mpr ⟨front, eof, stop, hfront, heof, ?_, hfinal⟩
    rwa [← Place.run_map_of_alike _ (fun token _ => alike_bare token),
      (List.append_inj' hbare rfl).1]
  obtain ⟨read, hok⟩ := hread
  refine ⟨read, hok, ?_⟩
  have hreadSpells := (ofTokens_eq_ok_iff.mp hok).relabel relabels_bare
  rw [hbare] at hreadSpells
  rw [← hsame]
  exact isDocument_unique hsignificant hreadSpells hspells

/-- Every well-formed document is read from every layout of its text: it can be spelled, and however
its tokens are spelled and laid out, reading the text gives the document back, up to positions. -/
theorem ofText_layout {document : Document} (hformed : document.WellFormed) :
    document.SpelledBy document.spelling ∧
    ∀ layout : Layout, document.SpelledBy layout.tokens →
      ∃ read, ofText layout.text = .ok read ∧ read.unlocated = document.unlocated := by
  refine ⟨spelledBy_spelling hformed, ?_⟩
  intro layout hspelled
  apply exists_ofTokens_of_map_bare hspelled
  have hspellable := hspelled.spellable hformed
  rw [Layout.tokens, List.forall_mem_map] at hspellable
  obtain ⟨front, eof, hlex, heof, _⟩ := closedOnce_lex layout.text
  rw [Cursor.closed_of_getLast? (by rw [hlex]; exact List.getLast?_concat) heof, lex, Lexer.ofText,
    Layout.text, String.toList_ofList, Lexer.significant_toList_pieces hspellable
    layout.lead_blank layout.gap_blank layout.apart]
  simp [Layout.tokens]

/-- With no more white space than is needed, a name that is spelled like a keyword is still a
name. -/
theorem ofText_layout_tight :
    ∃ layout : Layout, layout.text = "\tdirective@type on A,b_" ∧
      ∃ read, ofText layout.text = .ok read ∧
        read.unlocated = unlocated ⟨{}, [.directiveDef ⟨{}, "type", ["A", "b_"]⟩]⟩ := by
  have hformed : WellFormed ⟨{}, [.directiveDef ⟨{}, "type", ["A", "b_"]⟩]⟩ := by
    intro content hmem
    obtain rfl := List.mem_singleton.mp hmem
    exact ⟨by decide, by decide, by decide⟩
  let layout : Layout := {
    lead := ['\t']
    pieces := [(Place.word "directive", []), (Place.sign .at, []), (Place.word "type", [' ']),
      (Place.word "on", [' ']), (Place.word "A", []), (Place.sign .comma, []),
      (Place.word "b_", [])]
    lead_blank := by decide
    gap_blank := by decide
    apart := by simp [KeptApart, Place.word, Place.sign] }
  obtain ⟨hspelled, hread⟩ := ofText_layout hformed
  exact ⟨layout, by decide, hread layout hspelled⟩

end Document

end SchemaGen
