import SchemaGen.Proofs.Grammar.Complaint
import SchemaGen.Proofs.Grammar.Lookahead

namespace SchemaGen

namespace Document

open Grammar

/-- Some list that is read as a document starts with these significant tokens. -/
def Viable (front : List Token) : Prop :=
  ∃ stream document, ofTokens stream = .ok document ∧ front <+: significant stream

theorem viable_of_run {read : List Token} {stop : Place} (hrun : Place.top.run read = some stop) :
    Viable read := by
  obtain ⟨stream, document, hok, hstarts, _⟩ := exists_ofTokens_of_run hrun
  exact ⟨stream, document, hok, hstarts⟩

theorem significant_start_closed (tokens : List Token) :
    significant tokens <+: significant (Cursor.closed tokens) := by
  unfold Cursor.closed
  split
  · rename_i hnone
    rw [List.getLast?_eq_none_iff.mp hnone]
    exact List.nil_prefix
  · split
    · exact List.prefix_refl _
    · rw [significant_append]
      exact List.prefix_append ..

section

variable {tokens read later : List Token} {token : Token}

/-- The only end of file has nothing behind it. -/
theorem kind_ne_eof_of_later (hclosed : ClosedOnce tokens)
    (hread : significant tokens = read ++ token :: later) (hlater : later ≠ []) :
    token.kind ≠ .eof := by
  obtain ⟨front, eof, rfl, heof, hfront⟩ := hclosed
  rw [significant_append, significant_singleton (by simp [heof])] at hread
  rcases concat_eq_append_cons hread with ⟨_, _, hnothing⟩ | ⟨more, hmore⟩
  · exact absurd hnothing hlater
  · have hmem : token ∈ significant front := by simp [hmore]
    exact hfront token (List.mem_of_mem_filter hmem)

theorem not_viable_of_refused {stop : Place} (hclosed : ClosedOnce tokens)
    (hread : significant tokens = read ++ token :: later) (hrun : Place.top.run read = some stop)
    (hstep : stop.step token = none) (hlater : stop.Final → later ≠ []) :
    ¬ Viable (read ++ [token]) := by
  rintro ⟨stream, document, hok, hstarts⟩
  have hend (hfinal : stop.Final) := kind_ne_eof_of_later hclosed hread (hlater hfinal)
  exact not_prefix_of_run hrun hstep hend hok (hstarts.trans (significant_start_closed stream))

end

theorem failure_of_closedOnce {tokens : List Token} {error : SyntaxError}
    (hclosed : ClosedOnce tokens) (herror : ofTokens tokens = .error error) :
    Failure (significant tokens) error := by
  have hfailure := failure_of_error herror
  rwa [Cursor.closed_of_closedOnce hclosed] at hfailure

/-- Wherever the tokens lead, the complaint about the first one that leads nowhere is the root
cause. -/
theorem rootCause_eq_complaint {tokens before after : List Token} {token : Token} {stop : Place}
    {error : SyntaxError} (hclosed : ClosedOnce tokens) (herror : ofTokens tokens = .error error)
    (hsplit : significant tokens = before ++ token :: after)
    (hrun : Place.top.run before = some stop) (hstep : stop.step token = none) :
    error.rootCause = stop.complaint token := by
  have hfailure := failure_of_closedOnce hclosed herror
  cases hfailure with
  | mk _ _ _ _ hread hreadRun hreadStep _ _ =>
    have hsame := hread.symm.trans hsplit
    obtain ⟨rfl, htoken⟩ := List.append_inj hsame
      (Nat.le_antisymm (Place.length_le_of_refused hsame.symm hrun hstep hreadRun)
        (Place.length_le_of_refused hsame hreadRun hreadStep hrun))
    obtain rfl := Option.some.inj (hreadRun.symm.trans hrun)
    rw [SyntaxError.rootCause, Place.rootCause_complaint, (List.cons.inj htoken).1]

/-- The token to blame and what stands before it decide what the root cause is. A character outside
the language is the lexer's complaint, word for word. Otherwise brackets are to blame exactly if the
tokens before end inside a list, or if they end in a whole type and a `]` follows. All else is an
unexpected token, and a definition is what was expected exactly if the token to blame is the one at
which the definitions stopped. -/
theorem rootCause_told_by_prefix {tokens : List Token} {error : SyntaxError}
    (hclosed : ClosedOnce tokens) (herror : ofTokens tokens = .error error) :
    let blamed := error.rootCause.token
    ∃ before after whole beyond,
      significant tokens = before ++ blamed :: after ∧
      Viable before ∧ ¬ Viable (before ++ [blamed]) ∧
      significant tokens = whole ++ error.token :: beyond ∧
      (∀ eof, eof.kind = .eof → ∃ document, ofTokens (whole ++ [eof]) = .ok document) ∧
      (∀ longer eof document, longer <+: significant tokens → eof.kind = .eof →
        ofTokens (longer ++ [eof]) = .ok document → longer.length ≤ whole.length) ∧
      (∀ message, error.rootCause = .lexError message blamed ↔
        blamed.kind = .error ∧ message = blamed.value) ∧
      (error.rootCause = .mismatchedBrackets blamed ↔
        blamed.kind ≠ .error ∧ BracketsAmiss before blamed) ∧
      (blamed.kind ≠ .error → ¬ BracketsAmiss before blamed →
        ∃ expected, error.rootCause = .unexpectedToken expected blamed ∧
          (expected = definitionPhrase ↔ before.length = whole.length)) := by
  have hfailure := failure_of_closedOnce hclosed herror
  cases hfailure with
  | @mk whole beyond before after halt blamed ending stop hwhole hend hfinal hlongest hread hrun
      hstep hlater hle =>
    simp only [SyntaxError.rootCause, Place.rootCause_complaint, Place.token_complaint]
    refine ⟨before, after, whole, beyond, hread, viable_of_run hrun,
      not_viable_of_refused hclosed hread hrun hstep hlater, hwhole, ?_, ?_,
      fun message => Place.complaint_eq_lexError_iff, ?_, ?_⟩
    · intro eof heof
      rw [exists_ofTokens_concat_iff whole heof, Place.significant_of_run hend]
      exact ⟨ending, hend, hfinal⟩
    · intro longer eof document hstarts heof hok
      obtain ⟨place, hplace, hplaceFinal⟩ :=
        (exists_ofTokens_concat_iff longer heof).mp ⟨document, hok⟩
      rw [significant_of_start hstarts] at hplace
      obtain ⟨back, hback⟩ := hstarts
      exact hlongest longer back place hback.symm hplace hplaceFinal
    · rw [bracketsAmiss_iff hrun]
      exact Place.complaint_eq_mismatchedBrackets_iff
    · rw [bracketsAmiss_iff hrun]
      intro hkind hbrackets
      refine ⟨_, Place.complaint_of_not_mindsBrackets hkind hbrackets, ?_⟩
      rw [Place.phrase_wanted_eq_iff]
      constructor
      · intro hstop
        exact Nat.le_antisymm (hlongest before _ stop hread hrun hstop) hle
      · intro hlength
        obtain ⟨rfl, _⟩ := List.append_inj (hread.symm.trans hwhole) hlength
        obtain rfl := Option.some.inj (hend.symm.trans hrun)
        exact hfinal

/-- A block that is closed while a list is open: the closing brace is to blame, for the brackets,
and what stands before it ends inside the list. -/
theorem rootCause_told_by_prefix_open_list :
    let brace : Token := ⟨.rightCurly, ⟨0, 15⟩, ""⟩
    ∃ error before after, ClosedOnce (lex "type A \x7b b: [C \x7d") ∧
      ofTokens (lex "type A \x7b b: [C \x7d") = .error error ∧
      error.rootCause = .mismatchedBrackets brace ∧
      significant (lex "type A \x7b b: [C \x7d") = before ++ brace :: after ∧
      EndsInList before := by
  intro brace
  have hclosed := closedOnce_lex "type A \x7b b: [C \x7d"
  have htokens : significant (lex "type A \x7b b: [C \x7d") =
      [⟨.text, ⟨0, 0⟩, "type"⟩, ⟨.text, ⟨0, 5⟩, "A"⟩, ⟨.leftCurly, ⟨0, 7⟩, ""⟩,
        ⟨.text, ⟨0, 9⟩, "b"⟩, ⟨.colon, ⟨0, 10⟩, ""⟩, ⟨.leftBracket, ⟨0, 12⟩, ""⟩,
        ⟨.text, ⟨0, 13⟩, "C"⟩] ++ brace :: [⟨.eof, ⟨0, 16⟩, ""⟩] := by
    decide +kernel
  have hblamed : blamed? (lex "type A \x7b b: [C \x7d") = some brace := by
    decide +kernel
  obtain ⟨error, herror, htoken⟩ := blamed?_eq_some_iff.mp hblamed
  have hcause : error.rootCause = .mismatchedBrackets brace :=
    rootCause_eq_complaint hclosed herror htokens rfl rfl
  obtain ⟨before, after, _, _, hsplit, _, _, _, _, _, _, hiff, _⟩ :=
    rootCause_told_by_prefix hclosed herror
  rw [htoken] at hsplit hiff
  rcases (hiff.mp hcause).2 with hinside | ⟨hclosing, _⟩
  · exact ⟨error, before, after, hclosed, herror, hcause, hsplit, hinside⟩
  · cases hclosing

/-- The hint of a failure is truthful. If the root cause is that something else was expected, then
the phrase names some token, and every token that it names goes on from what stands before the token
to blame to the start of a document. -/
theorem expected_names_viable {tokens : List Token} {error : SyntaxError} {expected : String}
    {token : Token} (hclosed : ClosedOnce tokens) (herror : ofTokens tokens = .error error)
    (hcause : error.rootCause = .unexpectedToken expected token) :
    ∃ before after, significant tokens = before ++ token :: after ∧
      Viable before ∧ ¬ Viable (before ++ [token]) ∧
      (∃ other, Names expected other) ∧
      ∀ other, Names expected other → Viable (before ++ [other]) := by
  have hfailure := failure_of_closedOnce hclosed herror
  cases hfailure with
  | @mk _ _ before after _ blamed _ stop _ _ _ _ hread hrun hstep hlater _ =>
    simp only [SyntaxError.rootCause, Place.rootCause_complaint] at hcause
    obtain ⟨rfl, rfl⟩ := Place.eq_phrase_of_complaint hcause
    refine ⟨before, after, hread, viable_of_run hrun,
      not_viable_of_refused hclosed hread hrun hstep hlater, ?_, ?_⟩
    · obtain ⟨other, hadmits⟩ := stop.wanted.exists_admits
      exact ⟨other, stop.wanted, rfl, hadmits⟩
    · intro other hnames
      obtain ⟨next, hnext⟩ := Place.step_of_names hnames
      have hlonger : Place.top.run (before ++ [other]) = some next := by
        rw [Place.run_append, hrun, Option.bind_some, Place.run_cons, hnext]
        rfl
      exact viable_of_run hlonger

/-- Where a directive definition lacks its `on`, that word is named, and it would have led on. -/
theorem expected_names_viable_missing_on :
    let target : Token := ⟨.text, ⟨0, 13⟩, "B"⟩
    ∃ error before after, ClosedOnce (lex "directive @a B") ∧
      ofTokens (lex "directive @a B") = .error error ∧
      error.rootCause = .unexpectedToken "keyword 'on'" target ∧
      significant (lex "directive @a B") = before ++ target :: after ∧
      Names "keyword 'on'" (Place.word "on") ∧ Viable (before ++ [Place.word "on"]) := by
  intro target
  have hclosed := closedOnce_lex "directive @a B"
  have htokens : significant (lex "directive @a B") =
      [⟨.text, ⟨0, 0⟩, "directive"⟩, ⟨.at, ⟨0, 10⟩, ""⟩, ⟨.text, ⟨0, 11⟩, "a"⟩] ++
        target :: [⟨.eof, ⟨0, 14⟩, ""⟩] := by
    decide +kernel
  have hblamed : blamed? (lex "directive @a B") = some target := by
    decide +kernel
  obtain ⟨error, herror, _⟩ := blamed?_eq_some_iff.mp hblamed
  have hcause : error.rootCause = .unexpectedToken "keyword 'on'" target :=
    rootCause_eq_complaint hclosed herror htokens rfl rfl
  have hnames : Names "keyword 'on'" (Place.word "on") := ⟨.keyword "on", by decide, rfl, rfl⟩
  obtain ⟨before, after, hsplit, _, _, _, hviable⟩ :=
    expected_names_viable hclosed herror hcause
  exact ⟨error, before, after, hclosed, herror, hcause, hsplit, hnames, hviable _ hnames⟩

end Document

end SchemaGen
