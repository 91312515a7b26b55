import Mathlib.Data.List.Forall2
import SchemaGen.Proofs.Document.Relabel

namespace SchemaGen

/-- The error with other tokens in the place of its own. The complaint of the lexer is what the new
token says. -/
def SyntaxError.carry (onToken : Token → Token) : SyntaxError → SyntaxError
  | unexpectedToken expected token => unexpectedToken expected (onToken token)
  | lexError _ token => lexError (onToken token).value (onToken token)
  | mismatchedBrackets token => mismatchedBrackets (onToken token)
  | premature none token => premature none (onToken token)
  | premature (some cause) token => premature (some (cause.carry onToken)) (onToken token)

namespace Grammar

section

variable {onToken : Token → Token}

theorem carry_unexpected (expected : String) {token : Token}
    (hkind : (onToken token).kind = token.kind) :
    (SyntaxError.unexpected expected token).carry onToken =
      .unexpected expected (onToken token) := by
  unfold SyntaxError.unexpected
  rw [hkind]
  split <;> rfl

theorem Place.carry_complaint (place : Place) {token : Token}
    (hkind : (onToken token).kind = token.kind) :
    (place.complaint token).carry onToken = place.complaint (onToken token) := by
  have hunexpected := fun expected => carry_unexpected expected hkind
  cases place with
  | listName owner | listMarked owner =>
    simp only [complaint, hkind]
    split
    · exact hunexpected _
    · rfl
  | typeEnd owner | typeMarked owner =>
    cases owner <;>
    · simp only [complaint, hkind]
      split
      · rfl
      · exact hunexpected _
  | _ => exact hunexpected _

/-- What is wrong with a stream is wrong with every stream that is like it, at the same tokens. -/
theorem Failure.carry {stream : List Token} {error : SyntaxError}
    (halike : ∀ token ∈ stream, Alike token (onToken token)) (hfailure : Failure stream error) :
    Failure (stream.map onToken) (error.carry onToken) := by
  obtain @⟨whole, after, read, later, halt, token, ending, stop, hwhole, hend, hfinal, hlongest,
    hread, hrun, hstep, hlater, hle⟩ := hfailure
  have hrunMap {part back : List Token} (hpart : stream = part ++ back) :
      Place.top.run (part.map onToken) = Place.top.run part :=
    Place.top.run_map_of_alike fun token hmem => halike token (by simp [hpart, hmem])
  have htoken : Alike token (onToken token) := halike token (by simp [hread])
  simp only [SyntaxError.carry, stop.carry_complaint htoken.kind_eq]
  refine .mk (by rw [hwhole, List.map_append, List.map_cons]) ((hrunMap hwhole).trans hend) hfinal
    ?_ (by rw [hread, List.map_append, List.map_cons]) ((hrunMap hread).trans hrun)
    ((stop.step_of_alike htoken).trans hstep) (by simpa using hlater) (by simpa using hle)
  -- A longer run of definitions among the new tokens would be one among the old ones.
  intro longer back place hlonger hlongerRun hplace
  obtain ⟨part, rest, hpart, rfl, rfl⟩ := List.map_eq_append_iff.mp hlonger
  rw [hrunMap hpart] at hlongerRun
  simpa using hlongest part rest place hpart hlongerRun hplace

end

/-- A text that stands for a number. -/
def label (number : Nat) : String := Text.copies number 'x'

theorem length_label (number : Nat) : (label number).length = number := by
  simp [label, Text.copies]

/-- No keyword stands for a number. -/
theorem label_not_mem_keywords (number : Nat) : label number ∉ keywords := by
  intro hmem
  have hother : ∀ word ∈ keywords, word.toList.all (· == 'x') = false := by decide
  have hsame : (label number).toList.all (· == 'x') = true := by simp [label, Text.copies]
  rw [hother _ hmem] at hsame
  cases hsame

/-- The token with its number for a position, and for what it says unless that is a keyword. -/
def numbered (number : Nat) (token : Token) : Token where
  kind := token.kind
  loc := ⟨number, 0⟩
  value := if ∃ word ∈ keywords, token.IsWord word then token.value else label number

theorem alike_numbered (number : Nat) (token : Token) : Alike (numbered number token) token where
  kind_eq := rfl
  isWord_iff := by
    intro word hword
    constructor
    · intro hspelled
      exact ⟨hspelled.1, (if_pos ⟨word, hword, hspelled⟩).trans hspelled.2⟩
    · rintro ⟨htext, hvalue⟩
      refine ⟨htext, ?_⟩
      by_cases hkeyword : ∃ word ∈ keywords, token.IsWord word
      · exact (if_pos hkeyword).symm.trans hvalue
      · have hlabel : label number = word := (if_neg hkeyword).symm.trans hvalue
        exact absurd (hlabel ▸ hword) (label_not_mem_keywords number)

/-- Numbering takes away all that may differ between tokens that are alike. -/
theorem Alike.numbered_eq {token other : Token} (halike : Alike token other) (number : Nat) :
    numbered number other = numbered number token := by
  have hkeyword : (∃ word ∈ keywords, other.IsWord word) ↔ ∃ word ∈ keywords, token.IsWord word :=
    exists_congr fun word => and_congr_right fun hword => halike.isWord_iff hword
  have hvalue : (numbered number other).value = (numbered number token).value := by
    simp only [numbered, hkeyword]
    split
    · rename_i hspelled
      obtain ⟨word, hword, htoken⟩ := hspelled
      rw [((halike.isWord_iff hword).mpr htoken).2, htoken.2]
    · rfl
  simp only [numbered, halike.kind_eq] at hvalue ⊢
  rw [hvalue]

/-- The tokens of a list, each with its number in the list. -/
def numberedAll (tokens : List Token) : List Token :=
  tokens.mapIdx numbered

theorem numberedAll_congr {tokens others : List Token}
    (halike : List.Forall₂ Alike tokens others) : numberedAll others = numberedAll tokens := by
  apply List.ext_getElem
  · simp [numberedAll, halike.length_eq]
  · intro number hother htoken
    simp only [numberedAll, List.getElem_mapIdx]
    exact (halike.get _ _).numbered_eq number

/-- The function gives the tokens of a list back, once they have been numbered. -/
def GivesBack (tokens : List Token) (onToken : Token → Token) : Prop :=
  ∀ number token, tokens[number]? = some token → onToken (numbered number token) = token

section

variable {tokens : List Token} {onToken : Token → Token} (hback : GivesBack tokens onToken)

include hback

theorem GivesBack.map_numberedAll : (numberedAll tokens).map onToken = tokens := by
  apply List.ext_getElem?
  intro number
  rw [List.getElem?_map, numberedAll, List.getElem?_mapIdx]
  cases htoken : tokens[number]? with
  | none => rfl
  | some token => simp [hback number token htoken]

theorem GivesBack.alike : ∀ token ∈ numberedAll tokens, Alike token (onToken token) := by
  intro token hmem
  obtain ⟨number, hnumber, rfl⟩ := List.mem_mapIdx.mp hmem
  rw [hback number _ (List.getElem?_eq_getElem hnumber)]
  exact alike_numbered number _

theorem GivesBack.significant_numberedAll :
    (significant (numberedAll tokens)).map onToken = significant tokens := by
  rw [← significant_map_of_alike hback.alike, hback.map_numberedAll]

end

/-- The token that a number stands for. -/
def tokenAt (tokens : List Token) (number : Nat) : Token :=
  tokens.getD number default

theorem tokenAt_of_getElem? {tokens : List Token} {number : Nat} {token : Token}
    (htoken : tokens[number]? = some token) : tokenAt tokens number = token := by
  rw [tokenAt, List.getD_eq_getElem?_getD, htoken, Option.getD_some]

/-- The name that stands for a label. A keyword is no label and stays. -/
def nameAt (tokens : List Token) (name : String) : String :=
  if name ∈ keywords then name else (tokenAt tokens name.length).value

theorem nameAt_numbered {tokens : List Token} {number : Nat} {token : Token}
    (htoken : tokens[number]? = some token) :
    nameAt tokens (numbered number token).value = token.value := by
  by_cases hkeyword : ∃ word ∈ keywords, token.IsWord word
  · have hvalue : (numbered number token).value = token.value := if_pos hkeyword
    obtain ⟨word, hword, hspelled⟩ := hkeyword
    rw [hvalue, nameAt, if_pos (hspelled.2 ▸ hword)]
  · have hvalue : (numbered number token).value = label number := if_neg hkeyword
    rw [hvalue, nameAt, if_neg (label_not_mem_keywords number), length_label,
      tokenAt_of_getElem? htoken]

/-- The token that a numbered token stands for, of the kind that it has. -/
def filledIn (tokens : List Token) (token : Token) : Token where
  kind := token.kind
  loc := (tokenAt tokens token.loc.line).loc
  value := if token.kind = .text then nameAt tokens token.value
    else (tokenAt tokens token.loc.line).value

theorem relabels_filledIn (tokens : List Token) :
    Relabels (fun loc => (tokenAt tokens loc.line).loc) (nameAt tokens) (filledIn tokens) where
  kind_eq _ := rfl
  loc_eq _ := rfl
  value_eq hkind := if_pos hkind
  keyword_eq hword := if_pos hword

theorem givesBack_filledIn (tokens : List Token) : GivesBack tokens (filledIn tokens) := by
  intro number token htoken
  have hline : tokenAt tokens (numbered number token).loc.line = token :=
    tokenAt_of_getElem? htoken
  simp only [filledIn, hline, nameAt_numbered htoken, ite_self]
  rfl

theorem givesBack_tokenAt (tokens : List Token) :
    GivesBack tokens (fun token => tokenAt tokens token.loc.line) :=
  fun _ _ htoken => tokenAt_of_getElem? htoken

end Grammar

open Grammar

/-- The document with the tokens of a list in the place of their numbers. -/
def Document.fill (tokens : List Token) (outline : Document) : Document :=
  outline.relabel (fun loc => (tokenAt tokens loc.line).loc) (nameAt tokens)

/-- The error with the tokens of a list in the place of their numbers. -/
def SyntaxError.fill (tokens : List Token) (outline : SyntaxError) : SyntaxError :=
  outline.carry fun token => tokenAt tokens token.loc.line

namespace Cursor

theorem closed_numberedAll (tokens : List Token) :
    closed (numberedAll (closed tokens)) = numberedAll (closed tokens) := by
  obtain ⟨last, hlast, hkind⟩ := getLast?_closed tokens
  have hnumbered : (numberedAll (closed tokens)).getLast? =
      some (numbered ((closed tokens).length - 1) last) := by
    rw [numberedAll, List.getLast?_mapIdx, hlast, Option.map_some]
  exact closed_of_getLast? hnumbered hkind

/-- Lists that are alike are closed alike. -/
theorem forall₂_closed {tokens others : List Token} (halike : List.Forall₂ Alike tokens others) :
    List.Forall₂ Alike (closed tokens) (closed others) := by
  have hends (first second : Location) : List.Forall₂ Alike [⟨.eof, first, ""⟩]
      [⟨.eof, second, ""⟩] := .cons ⟨rfl, fun _ => by simp [Token.IsWord]⟩ .nil
  -- Whether an end of file is added depends on the last token, so the lists are split there.
  rcases List.eq_nil_or_concat tokens with rfl | ⟨front, last, rfl⟩
  · obtain rfl := List.forall₂_nil_left_iff.mp halike
    exact hends {} {}
  · have hreversed := List.forall₂_reverse_iff.mpr halike
    rw [List.concat_eq_append, List.reverse_concat, List.forall₂_cons_left_iff] at hreversed
    obtain ⟨other, back, hlast, hfront, hother⟩ := hreversed
    obtain rfl : others = back.reverse ++ [other] := by simpa using congrArg List.reverse hother
    simp only [closed, List.concat_eq_append, List.getLast?_concat, hlast.kind_eq]
    split
    · simpa using halike
    · exact List.rel_append (by simpa using halike) (hends _ _)

end Cursor

namespace Document

theorem ofTokens_of_numberedAll_ok {tokens : List Token} {outline : Document}
    (hok : ofTokens (numberedAll (Cursor.closed tokens)) = .ok outline) :
    ofTokens tokens = .ok (outline.fill (Cursor.closed tokens)) := by
  rw [ofTokens_eq_ok_iff, Cursor.closed_numberedAll] at hok
  rw [ofTokens_eq_ok_iff, ← (givesBack_filledIn _).significant_numberedAll]
  exact hok.relabel (relabels_filledIn _)

theorem ofTokens_of_numberedAll_error {tokens : List Token} {outline : SyntaxError}
    (herror : ofTokens (numberedAll (Cursor.closed tokens)) = .error outline) :
    ofTokens tokens = .error (outline.fill (Cursor.closed tokens)) := by
  rw [ofTokens_eq_error_iff, Cursor.closed_numberedAll] at herror
  have hback := givesBack_tokenAt (Cursor.closed tokens)
  rw [ofTokens_eq_error_iff, ← hback.significant_numberedAll]
  exact herror.carry fun token hmem => hback.alike token (List.mem_of_mem_filter hmem)

/-- Blank runs can be left out of a list that ends in an end of file. -/
theorem ofTokens_significant {tokens : List Token} {last : Token}
    (hlast : tokens.getLast? = some last) (hkind : last.kind = .eof) :
    ofTokens (significant tokens) = ofTokens tokens := by
  obtain ⟨front, rfl⟩ := List.getLast?_eq_some_iff.mp hlast
  have hsignificant : significant (front ++ [last]) = significant front ++ [last] := by
    rw [significant_append, significant_singleton (by simp [hkind])]
  apply ofTokens_congr
  rw [hsignificant, significant_closed_concat hkind, significant_closed_concat hkind,
    significant_of_start (List.prefix_refl _)]

/-- Blank runs, positions and the spellings of other words than keywords have no influence on
reading. Blank runs can be left out. Of two lists with tokens that are alike either both are read or
both are not, and what comes of them differs in nothing but what is taken from the tokens: the
outline, which reading the numbered tokens gives, is the same. -/
theorem ofTokens_oblivious :
    (∀ tokens last, tokens.getLast? = some last → last.kind = .eof →
      ofTokens (significant tokens) = ofTokens tokens) ∧
    ∀ tokens others, List.Forall₂ Alike tokens others →
      (∃ outline, ofTokens (numberedAll (Cursor.closed tokens)) = .ok outline ∧
        ofTokens tokens = .ok (outline.fill (Cursor.closed tokens)) ∧
        ofTokens others = .ok (outline.fill (Cursor.closed others))) ∨
      ∃ outline, ofTokens (numberedAll (Cursor.closed tokens)) = .error outline ∧
        ofTokens tokens = .error (outline.fill (Cursor.closed tokens)) ∧
        ofTokens others = .error (outline.fill (Cursor.closed others)) := by
  refine ⟨fun tokens last hlast hkind => ofTokens_significant hlast hkind, ?_⟩
  intro tokens others halike
  have hsame := numberedAll_congr (Cursor.forall₂_closed halike)
  cases hread : ofTokens (numberedAll (Cursor.closed tokens)) with
  | ok outline =>
    exact .inl ⟨outline, rfl, ofTokens_of_numberedAll_ok hread,
      ofTokens_of_numberedAll_ok (hsame ▸ hread)⟩
  | error outline =>
    exact .inr ⟨outline, rfl, ofTokens_of_numberedAll_error hread,
      ofTokens_of_numberedAll_error (hsame ▸ hread)⟩

/-- Another name in another place gives the same document with that name in that place. -/
theorem ofTokens_oblivious_renamed :
    let tokens : List Token := [⟨.text, ⟨0, 0⟩, "type"⟩, ⟨.whitespace, ⟨0, 4⟩, "1"⟩,
      ⟨.text, ⟨0, 5⟩, "A"⟩, ⟨.leftCurly, ⟨0, 6⟩, ""⟩, ⟨.rightCurly, ⟨0, 7⟩, ""⟩,
      ⟨.eof, ⟨0, 8⟩, ""⟩]
    let others : List Token := [⟨.text, ⟨3, 1⟩, "type"⟩, ⟨.whitespace, ⟨3, 5⟩, "7"⟩,
      ⟨.text, ⟨4, 6⟩, "schemas"⟩, ⟨.leftCurly, ⟨9, 0⟩, ""⟩, ⟨.rightCurly, ⟨4, 6⟩, "b"⟩,
      ⟨.eof, ⟨0, 0⟩, "c"⟩]
    let read : Document := ⟨⟨3, 1⟩, [.typeDef ⟨⟨3, 1⟩, "schemas", [], false⟩]⟩
    ofTokens tokens = .ok ⟨⟨0, 0⟩, [.typeDef ⟨⟨0, 0⟩, "A", [], false⟩]⟩ ∧
      ofTokens others = .ok read ∧ ofTokens (significant others) = .ok read := by
  intro tokens others read
  have houtline : ofTokens (numberedAll (Cursor.closed tokens)) =
      .ok ⟨⟨0, 0⟩, [.typeDef ⟨⟨0, 0⟩, "xx", [], false⟩]⟩ :=
    ofTokens_eq_ok_iff.mpr
      (.mk (.more (.typeDef ⟨rfl, rfl⟩ rfl (.mk rfl .none rfl)) .none) rfl rfl)
  obtain ⟨hblanks, hnames⟩ := ofTokens_oblivious
  rcases hnames tokens others (by decide) with ⟨outline, hsame, htokens, hothers⟩ | ⟨_, hsame, _⟩
  · rw [houtline] at hsame
    cases hsame
    exact ⟨htokens, hothers, (hblanks others _ rfl rfl).trans hothers⟩
  · rw [houtline] at hsame
    cases hsame

end Document

end SchemaGen
