import SchemaGen.Proofs.Grammar.Failure

namespace SchemaGen

theorem kind_ne_of_mem_significant {tokens : List Token} {token : Token}
    (hmem : token ∈ significant tokens) : token.kind ≠ .whitespace := by
  simpa using (List.mem_filter.mp hmem).2

theorem significant_append_cons {token : Token} (hkind : token.kind ≠ .whitespace)
    (front back : List Token) :
    significant (front ++ token :: back) = significant front ++ token :: significant back := by
  rw [← List.singleton_append, significant_append, significant_append, significant_singleton hkind,
    List.singleton_append]

/-- The significant tokens on both sides of one of them come from the tokens on both sides of it. -/
theorem exists_split_of_significant {tokens read later : List Token} {token : Token}
    (hsplit : significant tokens = read ++ token :: later) :
    ∃ front back, tokens = front ++ token :: back ∧ significant front = read ∧
      significant back = later := by
  obtain ⟨front, rest, rfl, hfront, hrest⟩ := List.filter_eq_append_iff.mp hsplit
  obtain ⟨blanks, back, rfl, hblanks, _, hback⟩ := List.filter_eq_cons_iff.mp hrest
  refine ⟨front ++ blanks, back, by simp, ?_, hback⟩
  rw [significant_append]
  have hnothing : significant blanks = [] := List.filter_eq_nil_iff.mpr hblanks
  rw [hnothing, List.append_nil]
  exact hfront

namespace Cursor

/-- Closing a list leaves a token and what stands before it alone. Nothing significant follows that
token only if it is itself the end of file that closes the list. -/
theorem exists_closed_append_cons (front : List Token) (token : Token) (rest : List Token) :
    ∃ behind, closed (front ++ token :: rest) = front ++ token :: behind ∧
      (significant behind = [] → rest = [] ∧ token.kind = .eof) := by
  obtain ⟨more, hmore⟩ : ∃ more, closed (front ++ token :: rest) =
      (front ++ token :: rest) ++ more := by
    unfold closed
    split
    · rename_i hnone
      simp at hnone
    · split
      · exact ⟨[], by simp⟩
      · exact ⟨_, rfl⟩
  have hclosed : closed (front ++ token :: rest) = front ++ token :: (rest ++ more) := by
    rw [hmore, List.append_assoc, List.cons_append]
  refine ⟨rest ++ more, hclosed, fun hnothing => ?_⟩
  obtain ⟨last, hlast, hkind⟩ := getLast?_closed (front ++ token :: rest)
  rw [hclosed] at hlast
  rcases List.eq_nil_or_concat' (rest ++ more) with hempty | ⟨before, other, hconcat⟩
  · rw [hempty, List.getLast?_concat] at hlast
    obtain rfl := Option.some.inj hlast
    exact ⟨(List.append_eq_nil_iff.mp hempty).1, hkind⟩
  · -- The end of file that closes the list would be a significant token behind this one.
    rw [hconcat, ← List.cons_append, ← List.append_assoc, List.getLast?_concat] at hlast
    obtain rfl := Option.some.inj hlast
    rw [hconcat, significant_append, significant_singleton (by simp [hkind])] at hnothing
    simp at hnothing

end Cursor

namespace Grammar

/-- A failure is settled at the token to blame. What follows that token may be exchanged, as long as
a whole document in front of it does not come to end there. -/
theorem Failure.exchange {stream : List Token} {error : SyntaxError}
    (hfailure : Failure stream error) :
    ∃ read later stop, stream = read ++ error.rootCause.token :: later ∧
      Place.top.run read = some stop ∧ (stop.Final → later ≠ []) ∧
      ∀ other, (stop.Final → other ≠ []) →
        Failure (read ++ error.rootCause.token :: other) error := by
  obtain @⟨whole, after, read, later, halt, token, ending, stop, hwhole, hend, hfinal, hlongest,
    hread, hrun, hstep, hlater, hle⟩ := hfailure
  simp only [SyntaxError.rootCause, Place.rootCause_complaint, Place.token_complaint]
  refine ⟨read, later, stop, hread, hrun, hlater, fun other hother => ?_⟩
  have hsame : whole ++ [halt] ++ after = read ++ [token] ++ later := by
    simpa using hwhole.symm.trans hread
  obtain ⟨gap, hgap⟩ : whole ++ [halt] <+: read ++ [token] :=
    List.prefix_of_prefix_length_le ⟨after, hsame⟩ (List.prefix_append ..) (by simp [hle])
  have hstream : read ++ token :: other = whole ++ halt :: (gap ++ other) := by
    have hlonger := congrArg (· ++ other) hgap
    simpa using hlonger.symm
  refine .mk hstream hend hfinal ?_ rfl hrun hstep hother hle
  intro longer back place hlonger hplace hplaceFinal
  -- No run gets past the token to blame, so the longer run was there before the exchange.
  have hbound := Place.length_le_of_refused hlonger hrun hstep hplace
  obtain ⟨more, rfl⟩ : longer <+: read :=
    List.prefix_of_prefix_length_le ⟨back, hlonger.symm⟩ (List.prefix_append ..) hbound
  exact hlongest longer (more ++ token :: later) place (by simp [hread]) hplace hplaceFinal

/-- A failure outlives everything that is put behind it. -/
theorem Failure.append {stream : List Token} {error : SyntaxError} (hfailure : Failure stream error)
    (more : List Token) : Failure (stream ++ more) error := by
  obtain ⟨read, later, stop, rfl, _, hlater, hexchange⟩ := hfailure.exchange
  rw [List.append_assoc, List.cons_append]
  refine hexchange _ fun hfinal hnothing => hlater hfinal ?_
  exact (List.append_eq_nil_iff.mp hnothing).1

/-- Where a whole document is followed by an end of file that is not the last token, a definition is
missed there. -/
theorem failure_of_inner_eof {front later : List Token} {eof : Token} {stop : Place}
    (hrun : Place.top.run front = some stop) (hfinal : stop.Final) (heof : eof.kind = .eof)
    (hlater : later ≠ []) :
    Failure (front ++ eof :: later)
      (.premature (some (.unexpectedToken definitionPhrase eof)) eof) := by
  have hstep := stop.step_eq_none (.inl heof)
  have hcomplaint : stop.complaint eof = .unexpectedToken definitionPhrase eof := by
    rcases hfinal with rfl | rfl <;> simp [Place.complaint, SyntaxError.unexpected, heof]
  rw [← hcomplaint]
  refine .mk rfl hrun hfinal ?_ rfl hrun hstep (fun _ => hlater) (Nat.le_refl _)
  intro longer back place hlonger hplace _
  exact Place.length_le_of_refused hlonger hrun hstep hplace

end Grammar

namespace Document

open Grammar

/-- The token to blame, where reading fails. -/
def blamed? (tokens : List Token) : Option Token :=
  match ofTokens tokens with
  | .ok _ => none
  | .error error => some error.rootCause.token

theorem blamed?_eq_some_iff {tokens : List Token} {token : Token} :
    blamed? tokens = some token ↔
      ∃ error, ofTokens tokens = .error error ∧ error.rootCause.token = token := by
  unfold blamed?
  cases ofTokens tokens <;> simp

theorem rootCause_mem_significant {tokens : List Token} {error : SyntaxError}
    (herror : ofTokens tokens = .error error) :
    error.rootCause.token ∈ significant (Cursor.closed tokens) := by
  obtain ⟨read, later, _, hread, _⟩ := (failure_of_error herror).exchange
  simp [hread]

/-- The tokens behind the one to blame may be exchanged for any others. The failure stays, unless
the one to blame is an end of file that would now close a whole document. -/
theorem exists_blamed_split {tokens : List Token} {error : SyntaxError}
    (herror : ofTokens tokens = .error error) :
    ∃ front back, Cursor.closed tokens = front ++ error.rootCause.token :: back ∧
      ∀ rest, ¬ (rest = [] ∧ error.rootCause.token.kind = .eof ∧
          ∃ document, IsDocument (significant (front ++ [error.rootCause.token])) document) →
        ofTokens (front ++ error.rootCause.token :: rest) = .error error := by
  obtain ⟨read, later, stop, hread, hrun, _, hexchange⟩ := (failure_of_error herror).exchange
  obtain ⟨front, back, hsplit, rfl, _⟩ := exists_split_of_significant hread
  refine ⟨front, back, hsplit, fun rest hgoesOn => ?_⟩
  obtain ⟨behind, hclosed, hbehind⟩ :=
    Cursor.exists_closed_append_cons front error.rootCause.token rest
  have hkind := kind_ne_of_mem_significant (rootCause_mem_significant herror)
  have hstream : significant (Cursor.closed (front ++ error.rootCause.token :: rest)) =
      significant front ++ error.rootCause.token :: significant behind := by
    rw [hclosed, significant_append_cons hkind]
  rw [ofTokens_eq_error_iff, hstream]
  refine hexchange _ fun hfinal hnothing => ?_
  obtain ⟨hrest, heof⟩ := hbehind hnothing
  obtain ⟨document, hok⟩ := (exists_ofTokens_concat_iff front heof).mpr ⟨stop, hrun, hfinal⟩
  have hdocument := ofTokens_eq_ok_iff.mp hok
  rw [Cursor.closed_of_getLast? List.getLast?_concat heof] at hdocument
  exact hgoesOn ⟨hrest, heof, document, hdocument⟩

/-- Nothing behind an end of file is read. If what it ends fails, it fails the same way with more
behind it; if it ends a whole document, a definition is missed at the end of file. -/
theorem ofTokens_append_of_eof {front rest : List Token} {eof : Token} (heof : eof.kind = .eof)
    (hrest : rest ≠ []) :
    ofTokens (front ++ eof :: rest) =
      match ofTokens (front ++ [eof]) with
      | .error error => .error error
      | .ok _ => .error (.premature (some (.unexpectedToken definitionPhrase eof)) eof) := by
  obtain ⟨behind, hclosed, hbehind⟩ := Cursor.exists_closed_append_cons front eof rest
  have hstream : significant (Cursor.closed (front ++ eof :: rest)) =
      significant front ++ eof :: significant behind := by
    rw [hclosed, significant_append_cons (by simp [heof])]
  cases hread : ofTokens (front ++ [eof]) with
  | error error =>
    have hfailure := (failure_of_error hread).append (significant behind)
    rw [significant_closed_concat heof, List.append_assoc, List.singleton_append] at hfailure
    exact ofTokens_eq_error_iff.mpr (hstream ▸ hfailure)
  | ok document =>
    obtain ⟨stop, hrun, hfinal⟩ := (exists_ofTokens_concat_iff front heof).mp ⟨document, hread⟩
    refine ofTokens_eq_error_iff.mpr (hstream ▸ failure_of_inner_eof hrun hfinal heof ?_)
    exact fun hnothing => hrest (hbehind hnothing).1

/-- Reading never looks behind the token to blame, nor behind an end of file. A failure stays word
for word the same whatever the tokens behind the one to blame are exchanged for; only if that one is
an end of file, and a whole document stands before it, does it matter that something follows. Every
list that goes on behind an end of file fails: as the part up to there does, or else because a
definition is missed at that end of file. -/
theorem error_settled_at_blame :
    (∀ tokens error, ofTokens tokens = .error error →
      ∃ index, (Cursor.closed tokens)[index]? = some error.rootCause.token ∧
        ∀ rest, ¬ (rest = [] ∧ error.rootCause.token.kind = .eof ∧ ∃ document,
            IsDocument (significant ((Cursor.closed tokens).take (index + 1))) document) →
          ofTokens ((Cursor.closed tokens).take (index + 1) ++ rest) = .error error) ∧
    ∀ front eof rest, eof.kind = .eof → rest ≠ [] →
      (∀ error, ofTokens (front ++ [eof]) = .error error →
        ofTokens (front ++ eof :: rest) = .error error) ∧
      ∀ document, ofTokens (front ++ [eof]) = .ok document →
        ofTokens (front ++ eof :: rest) =
          .error (.premature (some (.unexpectedToken definitionPhrase eof)) eof) := by
  refine ⟨fun tokens error herror => ?_, fun front eof rest heof hrest => ?_⟩
  · obtain ⟨front, back, hsplit, hsame⟩ := exists_blamed_split herror
    have htake : (Cursor.closed tokens).take (front.length + 1) =
        front ++ [error.rootCause.token] := by
      rw [hsplit, List.take_length_add_append]
      rfl
    refine ⟨front.length, by simp [hsplit], fun rest hgoesOn => ?_⟩
    rw [htake] at hgoesOn ⊢
    rw [List.append_assoc, List.singleton_append]
    exact hsame rest hgoesOn
  · have hread := @ofTokens_append_of_eof front rest eof heof hrest
    exact ⟨fun error herror => by rw [hread, herror], fun document hok => by rw [hread, hok]⟩

/-- A character outside the language settles the failure wherever the tokens come from that follow,
and a blank run behind the end of a whole document makes that end a failure. -/
theorem error_settled_at_blame_percent :
    (∃ error, ofTokens (lex "type %") = .error error ∧
      error.rootCause.token = ⟨.error, ⟨0, 5⟩, "unknown character '%'"⟩ ∧
      ∀ rest, ofTokens ((lex "type %").take 3 ++ rest) = .error error) ∧
    ofTokens (lex "schema\x7b\x7d" ++ [⟨.whitespace, ⟨0, 8⟩, "1"⟩]) =
      .error (.premature (some (.unexpectedToken definitionPhrase ⟨.eof, ⟨0, 8⟩, ""⟩))
        ⟨.eof, ⟨0, 8⟩, ""⟩) := by
  constructor
  · have htokens : lex "type %" = [⟨.text, ⟨0, 0⟩, "type"⟩, ⟨.whitespace, ⟨0, 4⟩, "1"⟩,
        ⟨.error, ⟨0, 5⟩, "unknown character '%'"⟩, ⟨.eof, ⟨0, 6⟩, ""⟩] := by
      decide +kernel
    have hblamed : blamed? (lex "type %") = some ⟨.error, ⟨0, 5⟩, "unknown character '%'"⟩ := by
      decide +kernel
    obtain ⟨error, herror, htoken⟩ := blamed?_eq_some_iff.mp hblamed
    obtain ⟨index, hindex, hsame⟩ := error_settled_at_blame.1 _ _ herror
    have hclosed : Cursor.closed (lex "type %") = lex "type %" := by
      rw [htokens]
      rfl
    rw [hclosed] at hindex hsame
    rw [htoken, htokens] at hindex
    obtain rfl : index = 2 := by
      match index with
      | 0 | 1 | 2 | 3 | _ + 4 => simp at hindex ⊢
    refine ⟨error, herror, htoken, fun rest => hsame rest ?_⟩
    rw [htoken]
    simp
  · have htokens : lex "schema\x7b\x7d" = [⟨.text, ⟨0, 0⟩, "schema"⟩, ⟨.leftCurly, ⟨0, 6⟩, ""⟩,
        ⟨.rightCurly, ⟨0, 7⟩, ""⟩] ++ [⟨.eof, ⟨0, 8⟩, ""⟩] := by
      decide +kernel
    have hread : ofTokens (lex "schema\x7b\x7d") = .ok ⟨⟨0, 0⟩, [.schema ⟨⟨0, 0⟩, []⟩]⟩ := by
      rw [htokens, ofTokens_eq_ok_iff]
      exact .mk (.more (.schema ⟨rfl, rfl⟩ (.mk rfl .none rfl)) .none) rfl rfl
    rw [htokens] at hread ⊢
    rw [List.append_assoc]
    exact (error_settled_at_blame.2 _ _ [⟨.whitespace, ⟨0, 8⟩, "1"⟩] rfl (by simp)).2 _ hread

end Document

end SchemaGen
