import SchemaGen.Proofs.Grammar.Document
import SchemaGen.Proofs.Token.Lexer

namespace SchemaGen

/-- A token inside a list that ends in another one is the last one or stands before it. -/
theorem concat_eq_append_cons {front read later : List Token} {last token : Token}
    (heq : front ++ [last] = read ++ token :: later) :
    read = front ∧ token = last ∧ later = [] ∨ ∃ more, front = read ++ token :: more := by
  rcases List.eq_nil_or_concat later with rfl | ⟨more, other, rfl⟩
  · obtain ⟨rfl, hlast⟩ := List.append_inj' heq rfl
    exact .inl ⟨rfl, (List.cons.inj hlast).1.symm, rfl⟩
  · have hlonger : front ++ [last] = (read ++ token :: more) ++ [other] := by simpa using heq
    exact .inr ⟨more, (List.append_inj' hlonger rfl).1⟩

theorem Cursor.closed_of_closedOnce {tokens : List Token} (hclosed : ClosedOnce tokens) :
    closed tokens = tokens := by
  obtain ⟨front, eof, rfl, heof, _⟩ := hclosed
  exact closed_of_getLast? List.getLast?_concat heof

namespace Grammar

/-- Where a token leads nowhere, no document ends behind it, and none in front of it unless there is
nothing behind it. -/
theorem Place.not_final_of_refused {front read later : List Token} {eof token : Token}
    {final stop : Place} (hfront : front ++ [eof] = read ++ token :: later)
    (hfrontRun : top.run front = some final) (hrun : top.run read = some stop)
    (hstep : stop.step token = none) (hlater : stop.Final → later ≠ []) : ¬ final.Final := by
  intro hfinal
  rcases concat_eq_append_cons hfront with ⟨rfl, rfl, rfl⟩ | ⟨more, rfl⟩
  · rw [hfrontRun] at hrun
    cases hrun
    exact absurd rfl (hlater hfinal)
  · rw [Place.run_eq_none hrun hstep] at hfrontRun
    cases hfrontRun

end Grammar

namespace Document

open Grammar

instance (source : String) (document : Document) : Decidable (ofText source = .ok document) :=
  decidable_of_iff ((ofText source).toOption = some document)
    (by cases ofText source <;> simp [Except.toOption])

theorem ofText_eq_ok_iff {source : String} {document : Document} :
    ofText source = .ok document ↔ IsDocument (significant (lex source)) document := by
  rw [ofText, ofTokens_eq_ok_iff, Cursor.closed_of_closedOnce (closedOnce_lex source)]

/-- A list is read exactly if its tokens lead to a place where a document may end. -/
theorem exists_ofTokens_eq_ok_iff {tokens : List Token} :
    (∃ document, ofTokens tokens = .ok document) ↔
      ∃ front eof stop, significant (Cursor.closed tokens) = front ++ [eof] ∧ eof.kind = .eof ∧
        Place.top.run front = some stop ∧ stop.Final := by
  rw [← Cursor.rest_ofTokens]
  constructor
  · rintro ⟨document, hok⟩
    obtain ⟨next, hverdict⟩ := verdict_of_ok hok
    cases hverdict with
    | accepted hrest heof _ hrun hfinal => exact ⟨_, _, _, hrest, heof, hrun, hfinal⟩
  · rintro ⟨front, eof, final, hfront, heof, hfrontRun, hfinal⟩
    cases hread : ofTokens tokens with
    | ok document => exact ⟨document, rfl⟩
    | error error =>
      obtain ⟨next, hverdict⟩ := verdict_of_error hread
      cases hverdict with
      | refused _ _ hrun hrest hstep hlater _ _ =>
        rw [hfront] at hrest
        exact absurd hfinal (Place.not_final_of_refused hrest hfrontRun hrun hstep hlater)

theorem significant_closed_concat {tokens : List Token} {eof : Token} (heof : eof.kind = .eof) :
    significant (Cursor.closed (tokens ++ [eof])) = significant tokens ++ [eof] := by
  rw [Cursor.closed_of_getLast? List.getLast?_concat heof, significant_append,
    significant_singleton (by simp [heof])]

/-- With an end of file behind it, a list is read exactly if it leads to a place where a document may
end. -/
theorem exists_ofTokens_concat_iff (tokens : List Token) {eof : Token} (heof : eof.kind = .eof) :
    (∃ document, ofTokens (tokens ++ [eof]) = .ok document) ↔
      ∃ stop, Place.top.run (significant tokens) = some stop ∧ stop.Final := by
  rw [exists_ofTokens_eq_ok_iff, significant_closed_concat heof]
  constructor
  · rintro ⟨front, last, stop, hfront, _, hrun, hfinal⟩
    rw [(List.append_inj' hfront rfl).1]
    exact ⟨stop, hrun, hfinal⟩
  · rintro ⟨stop, hrun, hfinal⟩
    exact ⟨_, _, stop, rfl, heof, hrun, hfinal⟩

end Document

namespace Grammar

/-- A document is spelled by the tokens of its definitions and an end of file, and it stands at the
first of these tokens. -/
theorem isDocument_concat_iff {tokens : List Token} {eof : Token} {document : Document} :
    IsDocument (tokens ++ [eof]) document ↔
      eof.kind = .eof ∧ Repeated IsDefinition tokens document.definitions ∧
        document.loc = (tokens.head?.map Token.loc).getD eof.loc := by
  constructor
  · intro hdocument
    generalize hstream : tokens ++ [eof] = stream at hdocument
    obtain ⟨hdefinitions, heof, hfirst⟩ := hdocument
    obtain ⟨rfl, hlast⟩ := List.append_inj' hstream rfl
    obtain rfl := (List.cons.inj hlast).1
    refine ⟨heof, hdefinitions, ?_⟩
    cases tokens with
    | nil =>
      cases hfirst
      rfl
    | cons token tokens =>
      cases hfirst
      rfl
  · obtain ⟨loc, definitions⟩ := document
    rintro ⟨heof, hdefinitions, rfl⟩
    cases tokens with
    | nil => exact .mk hdefinitions heof rfl
    | cons token tokens => exact .mk hdefinitions heof rfl

theorem exists_isDocument_iff {tokens : List Token} {eof : Token} (heof : eof.kind = .eof) :
    (∃ document, IsDocument (tokens ++ [eof]) document) ↔
      ∃ definitions, Repeated IsDefinition tokens definitions := by
  constructor
  · rintro ⟨document, hdocument⟩
    exact ⟨_, (isDocument_concat_iff.mp hdocument).2.1⟩
  · rintro ⟨definitions, hdefinitions⟩
    exact ⟨⟨_, definitions⟩, isDocument_concat_iff.mpr ⟨heof, hdefinitions, rfl⟩⟩

/-- Tokens spell definitions exactly if they lead to a place where a document may end. -/
theorem exists_repeated_isDefinition_iff {tokens : List Token}
    (hsignificant : significant tokens = tokens) :
    (∃ definitions, Repeated IsDefinition tokens definitions) ↔
      ∃ stop, Place.top.run tokens = some stop ∧ stop.Final := by
  have heof : (Place.sign .eof).kind = .eof := rfl
  have hread := Document.exists_ofTokens_concat_iff tokens heof
  simp only [Document.ofTokens_eq_ok_iff, Document.significant_closed_concat heof] at hread
  rw [← exists_isDocument_iff heof, ← hsignificant, hread]

/-- What is wrong with a stream of significant tokens that is no document. -/
inductive Failure (stream : List Token) : SyntaxError → Prop
  /-- The error stands at the end of the longest run of whole definitions. Its cause is the first
  token that leads nowhere. If a document could have ended in front of that token, then the token
  does not end this one. -/
  | mk {whole after read later : List Token} {halt token : Token} {ending stop : Place}
      (hwhole : stream = whole ++ halt :: after) (hend : Place.top.run whole = some ending)
      (hfinal : ending.Final)
      (hlongest : ∀ longer back place, stream = longer ++ back →
        Place.top.run longer = some place → place.Final → longer.length ≤ whole.length)
      (hread : stream = read ++ token :: later) (hrun : Place.top.run read = some stop)
      (hstep : stop.step token = none) (hlater : stop.Final → later ≠ [])
      (hle : whole.length ≤ read.length) :
      Failure stream (.premature (some (stop.complaint token)) halt)

open Rule

/-- Where a rule finds something to read it is not given up. -/
theorem not_givenUp_of_succeeds {α : Type} {rule : Rule α} {cursor : Cursor}
    {tokens back : List Token} (hsucceeds : rule.Succeeds tokens) (hvalid : cursor.Valid)
    (hrest : cursor.rest = tokens ++ back) (hback : back ≠ []) : ¬ rule.GivenUp cursor := by
  rintro ⟨spot, error, hfailed, hsame⟩
  obtain ⟨after, later, rfl⟩ := List.exists_cons_of_ne_nil hback
  obtain ⟨value, next, hok⟩ := hsucceeds spot after later (hsame.symm.valid hvalid)
    (hsame.symm.rest_eq.trans hrest)
  rw [hok] at hfailed
  cases hfailed

section

variable {halted : Cursor} {ending place : Place} {more back : List Token}

/-- The definitions do not halt in front of a comma from which a document could go on. -/
theorem not_comesToComma (hvalid : halted.Valid) (hfinal : ending.Final)
    (hrun : ending.run (halted.peek :: more) = some place) (hplace : place.Final)
    (hrest : halted.rest = halted.peek :: more ++ back) (hback : back ≠ []) :
    ¬ ComesToComma halted := by
  rintro ⟨hcomma, hgivenUp⟩
  have hnext : Place.nextTarget.run more = some place := by
    rcases hfinal with rfl | rfl
    · simp [Place.step, Token.IsWord, hcomma] at hrun
    · simpa [Place.step, hcomma] using hrun
  cases more with
  | nil =>
    cases hnext
    exact absurd hplace (by decide)
  | cons name more =>
    have hname : name.kind = .text := by
      by_contra hkind
      simp [Place.step, hkind] at hnext
    have hfurther : Behind .comma IsName [halted.peek, name] name.value := .mk hcomma (.mk hname)
    have hsplit : halted.rest = [halted.peek, name] ++ (more ++ back) := hrest
    exact not_givenUp_of_succeeds (accepts_furtherTarget hfurther).succeeds hvalid hsplit
      (by simp [hback]) hgivenUp

/-- The definitions do not halt in front of a definition. -/
theorem not_givenUp_definition (hvalid : halted.Valid) (hfinal : ending.Final)
    (hrun : ending.run (halted.peek :: more) = some place) (hplace : place.Final)
    (hrest : halted.rest = halted.peek :: more ++ back) (hback : back ≠ [])
    (hstart : StartsDefinition halted.peek) : ¬ definition.GivenUp halted := by
  have htop : Place.top.run (halted.peek :: more) = some place := by
    rcases hfinal with rfl | rfl
    · exact hrun
    · rwa [← (Place.target_slides (by simp [hstart.kind_eq])).run_cons_eq]
  obtain ⟨definitions, hdefinitions⟩ :=
    (exists_repeated_isDefinition_iff (Place.significant_of_run htop)).mpr ⟨place, htop, hplace⟩
  generalize hstream : halted.peek :: more = tokens at hdefinitions hrest
  cases hdefinitions with
  | none => cases hstream
  | @more front behind content contents hdefinition _ =>
    rw [List.append_assoc] at hrest
    exact not_givenUp_of_succeeds (succeeds_definition hdefinition) hvalid hrest (by simp [hback])

end

/-- Where the definitions halt, no longer run of definitions ends. -/
theorem length_le_of_halts {cursor halted : Cursor} {ending place : Place}
    {whole longer back : List Token} (hvalid : cursor.Valid) (hreads : cursor.Reads whole halted)
    (hwhole : Place.top.run whole = some ending) (hfinal : ending.Final)
    (hhalts : ending.step halted.peek = none ∨ ComesToComma halted ∨
      StartsDefinition halted.peek ∧ definition.GivenUp halted)
    (hlonger : cursor.rest = longer ++ back) (hrun : Place.top.run longer = some place)
    (hplace : place.Final) : longer.length ≤ whole.length := by
  by_contra hnot
  have hstarts : whole <+: longer :=
    List.prefix_of_prefix_length_le ⟨_, hreads.rest_eq.symm⟩ ⟨_, hlonger.symm⟩ (by omega)
  obtain ⟨beyond, rfl⟩ := hstarts
  obtain ⟨middle, hmiddle, hbeyond⟩ := Place.run_append_eq_some hrun
  obtain rfl : ending = middle := Option.some.inj (hwhole.symm.trans hmiddle)
  have hrest := hreads.rest_of_append (hlonger.trans (List.append_assoc ..))
  cases beyond with
  | nil => simp at hnot
  | cons first more =>
    obtain rfl := hreads.valid.peek_eq hrest
    have hback : back ≠ [] := by
      rintro rfl
      obtain ⟨front, eof, hends, heof⟩ := hvalid.rest_ends
      rw [hlonger, List.append_nil] at hends
      exact Place.kind_ne_of_run hrun eof (by simp [hends]) (.inl heof)
    rcases hhalts with hstep | hcomma | ⟨hstart, hgivenUp⟩
    · simp [hstep] at hbeyond
    · exact not_comesToComma hreads.valid hfinal hbeyond hplace hrest hback hcomma
    · exact not_givenUp_definition hreads.valid hfinal hbeyond hplace hrest hback hstart hgivenUp

theorem failure_of_verdict {cursor next : Cursor} {error : SyntaxError} (hvalid : cursor.Valid)
    (hverdict : Verdict cursor (.error error next)) : Failure cursor.rest error := by
  cases hverdict with
  | @refused whole read later definitions token stop halted _ hreads hdefinitions hrun hrest hstep
      hlater hle hhalts =>
    have hstarts : whole <+: read :=
      List.prefix_of_prefix_length_le ⟨_, hreads.rest_eq.symm⟩ ⟨_, hrest.symm⟩ hle
    obtain ⟨gap, rfl⟩ := hstarts
    obtain ⟨ending, hwhole, _⟩ := Place.run_append_eq_some hrun
    obtain ⟨place, hplace, hfinal⟩ := (exists_repeated_isDefinition_iff
      (Place.significant_of_run hwhole)).mp ⟨definitions, hdefinitions⟩
    obtain rfl : ending = place := Option.some.inj (hwhole.symm.trans hplace)
    have hsplit := hreads.rest_eq
    rw [hreads.valid.rest_eq] at hsplit
    refine .mk hsplit hwhole hfinal ?_ hrest hrun hstep hlater hle
    intro longer back place hlonger hlongerRun hlongerFinal
    refine length_le_of_halts hvalid hreads hwhole hfinal (hhalts.imp_left ?_) hlonger hlongerRun
      hlongerFinal
    intro hsame
    obtain rfl : gap = [] := by simpa using hsame
    rw [List.append_nil] at hrest hrun
    obtain rfl : ending = stop := Option.some.inj (hwhole.symm.trans hrun)
    rwa [hreads.valid.peek_eq (hreads.rest_of_append hrest)]

/-- No run goes past a token that leads nowhere. -/
theorem Place.length_le_of_refused {place stop final : Place} {read later longer back : List Token}
    {token : Token} (hsame : read ++ token :: later = longer ++ back)
    (hrun : place.run read = some stop) (hstep : stop.step token = none)
    (hlonger : place.run longer = some final) : longer.length ≤ read.length := by
  by_contra hnot
  have hstarts : read ++ [token] <+: longer :=
    List.prefix_of_prefix_length_le ⟨later, by simp⟩ ⟨back, hsame.symm⟩ (by simp; omega)
  obtain ⟨beyond, rfl⟩ := hstarts
  rw [List.append_assoc, List.singleton_append, run_eq_none hrun hstep] at hlonger
  cases hlonger

/-- There is one thing wrong with a stream at most. -/
theorem Failure.unique {stream : List Token} {first second : SyntaxError}
    (hfirst : Failure stream first) (hsecond : Failure stream second) : first = second := by
  obtain ⟨hwhole, hend, hfinal, hlongest, hread, hrun, hstep, _, _⟩ := hfirst
  obtain ⟨hwhole', hend', hfinal', hlongest', hread', hrun', hstep', _, _⟩ := hsecond
  -- Neither of the two runs of whole definitions is longer, and neither way to the token to blame.
  have hhalt := List.append_inj (hwhole.symm.trans hwhole')
    (Nat.le_antisymm (hlongest' _ _ _ hwhole hend hfinal) (hlongest _ _ _ hwhole' hend' hfinal'))
  have hblamed := hread.symm.trans hread'
  obtain ⟨rfl, htoken⟩ := List.append_inj hblamed
    (Nat.le_antisymm (Place.length_le_of_refused hblamed.symm hrun' hstep' hrun)
      (Place.length_le_of_refused hblamed hrun hstep hrun'))
  rw [hrun] at hrun'
  cases hrun'
  rw [(List.cons.inj htoken).1, (List.cons.inj hhalt.2).1]

end Grammar

namespace Document

open Grammar

theorem failure_of_error {tokens : List Token} {error : SyntaxError}
    (herror : ofTokens tokens = .error error) :
    Failure (significant (Cursor.closed tokens)) error := by
  obtain ⟨next, hverdict⟩ := verdict_of_error herror
  rw [← Cursor.rest_ofTokens]
  exact failure_of_verdict (Cursor.valid_ofTokens tokens) hverdict

/-- A list fails to be read with an error exactly if that is what is wrong with it. -/
theorem ofTokens_eq_error_iff {tokens : List Token} {error : SyntaxError} :
    ofTokens tokens = .error error ↔ Failure (significant (Cursor.closed tokens)) error := by
  refine ⟨failure_of_error, fun hfailure => ?_⟩
  cases hread : ofTokens tokens with
  | error found => rw [(failure_of_error hread).unique hfailure]
  | ok document =>
    obtain ⟨front, eof, final, hfront, _, hfrontRun, hfinal⟩ :=
      exists_ofTokens_eq_ok_iff.mp ⟨document, hread⟩
    rw [hfront] at hfailure
    generalize hstream : front ++ [eof] = stream at hfailure
    obtain ⟨_, _, _, _, hrest, hrun, hstep, hlater, _⟩ := hfailure
    rw [hrest] at hstream
    exact absurd hfinal (Place.not_final_of_refused hstream hfrontRun hrun hstep hlater)

/-- Reading sees the significant tokens only. -/
theorem ofTokens_congr {tokens others : List Token}
    (hsame : significant (Cursor.closed tokens) = significant (Cursor.closed others)) :
    ofTokens tokens = ofTokens others := by
  cases hread : ofTokens others with
  | ok document => rwa [ofTokens_eq_ok_iff, hsame, ← ofTokens_eq_ok_iff]
  | error error => rwa [ofTokens_eq_error_iff, hsame, ← ofTokens_eq_error_iff]

/-- Whatever leads to a place is the start of some document. -/
theorem exists_ofTokens_of_run {read : List Token} {stop : Place}
    (hrun : Place.top.run read = some stop) :
    ∃ stream document, ofTokens stream = .ok document ∧ read <+: significant stream ∧
      read ≠ significant stream := by
  obtain ⟨final, hcompletion, hfinal⟩ := stop.run_completion
  have hall : Place.top.run (read ++ stop.completion) = some final := by
    rw [Place.run_append, hrun, Option.bind_some, hcompletion]
  have hsignificant := Place.significant_of_run hall
  have heof : (Place.sign .eof).kind = .eof := rfl
  obtain ⟨document, hdocument⟩ := (exists_ofTokens_concat_iff _ heof).mpr
    ⟨final, hsignificant.symm ▸ hall, hfinal⟩
  have hstream : significant (read ++ stop.completion ++ [Place.sign .eof]) =
      read ++ (stop.completion ++ [Place.sign .eof]) := by
    rw [significant_append, hsignificant, List.append_assoc]
    rfl
  refine ⟨_, document, hdocument, ?_, ?_⟩
  · rw [hstream]
    exact List.prefix_append ..
  · rw [hstream]
    simp

/-- Tokens that lead up to one that leads nowhere are the start of no document that goes on with it,
unless they are a whole document and it is the end of the file. -/
theorem not_prefix_of_run {read : List Token} {token : Token} {stop : Place}
    (hrun : Place.top.run read = some stop) (hstep : stop.step token = none)
    (hend : stop.Final → token.kind ≠ .eof) {stream : List Token} {document : Document}
    (hok : ofTokens stream = .ok document) :
    ¬ read ++ [token] <+: significant (Cursor.closed stream) := by
  obtain ⟨front, eof, final, hfront, heof, hfrontRun, hfinal⟩ :=
    exists_ofTokens_eq_ok_iff.mp ⟨document, hok⟩
  rintro ⟨later, hlater⟩
  rw [hfront, List.append_assoc] at hlater
  rcases concat_eq_append_cons hlater.symm with ⟨rfl, rfl, _⟩ | ⟨more, rfl⟩
  · obtain rfl : stop = final := Option.some.inj (hrun.symm.trans hfrontRun)
    exact hend hfinal heof
  · rw [Place.run_eq_none hrun hstep] at hfrontRun
    cases hfrontRun

/-- The root cause of a failure is the first token that cannot go on: what stands before it is the
start of a document, and with it no longer. This holds where the only end of file is the last
token, as it is in every text. -/
theorem rootCause_first_refused :
    (∀ source, ClosedOnce (lex source)) ∧
    ∀ tokens error, ClosedOnce tokens → ofTokens tokens = .error error →
      ∃ before after, significant tokens = before ++ error.rootCause.token :: after ∧
        (∃ stream document, ofTokens stream = .ok document ∧ before <+: significant stream ∧
          before ≠ significant stream) ∧
        ∀ stream document, ofTokens stream = .ok document →
          ¬ before ++ [error.rootCause.token] <+: significant (Cursor.closed stream) := by
  refine ⟨closedOnce_lex, ?_⟩
  rintro tokens error ⟨front, eof, rfl, heof, hfront⟩ herror
  have hfailure := failure_of_error herror
  rw [significant_closed_concat heof] at hfailure
  cases hfailure with
  | @mk _ _ read later _ token _ stop _ _ _ _ hread hrun hstep hlater _ =>
    simp only [SyntaxError.rootCause, Place.rootCause_complaint, Place.token_complaint]
    rw [significant_append, significant_singleton (by simp [heof])]
    refine ⟨read, later, hread, exists_ofTokens_of_run hrun, fun stream document hok => ?_⟩
    refine not_prefix_of_run hrun hstep ?_ hok
    intro hfinal hkind
    rcases concat_eq_append_cons hread with ⟨_, _, hnothing⟩ | ⟨more, hmore⟩
    · exact hlater hfinal hnothing
    · have hmem : token ∈ significant front := by simp [hmore]
      exact hfront token (List.mem_of_mem_filter hmem) hkind

/-- Where `on` is missing, the word in its place is to blame. -/
theorem rootCause_first_refused_missing_on :
    ∃ error, ClosedOnce (lex "directive @a B") ∧ ofTokens (lex "directive @a B") = .error error ∧
      error.rootCause.token = ⟨.text, ⟨0, 13⟩, "B"⟩ ∧
      ∃ before after,
        significant (lex "directive @a B") = before ++ ⟨.text, ⟨0, 13⟩, "B"⟩ :: after := by
  have hblamed : (match ofTokens (lex "directive @a B") with
      | .ok _ => none
      | .error error => some error.rootCause.token) = some ⟨.text, ⟨0, 13⟩, "B"⟩ := by
    decide +kernel
  cases herror : ofTokens (lex "directive @a B") with
  | ok document => simp [herror] at hblamed
  | error error =>
    have htoken : error.rootCause.token = ⟨.text, ⟨0, 13⟩, "B"⟩ := by simpa [herror] using hblamed
    obtain ⟨before, after, hsplit, _⟩ :=
      rootCause_first_refused.2 _ _ (closedOnce_lex "directive @a B") herror
    rw [htoken] at hsplit
    exact ⟨error, closedOnce_lex _, rfl, htoken, before, after, hsplit⟩

/-- Every failure has one shape. It says where reading stopped and why, and the reason is never
itself such a report. Where it stopped is the token behind the longest run of tokens that would be a
document if the file ended there. The token to blame comes no earlier: it is the one behind the
longest start of a document. -/
theorem error_shape {tokens : List Token} {error : SyntaxError}
    (herror : ofTokens tokens = .error error) :
    ∃ cause halt, error = .premature (some cause) halt ∧
      (∀ inner token, cause ≠ .premature inner token) ∧ error.rootCause = cause ∧
      ∃ whole after read later,
        significant (Cursor.closed tokens) = whole ++ halt :: after ∧
        (∀ eof, eof.kind = .eof → ∃ document, ofTokens (whole ++ [eof]) = .ok document) ∧
        (∀ longer eof document, longer <+: significant (Cursor.closed tokens) → eof.kind = .eof →
          ofTokens (longer ++ [eof]) = .ok document → longer.length ≤ whole.length) ∧
        significant (Cursor.closed tokens) = read ++ cause.token :: later ∧
        whole.length ≤ read.length ∧
        (∃ stream document, ofTokens stream = .ok document ∧ read <+: significant stream ∧
          read ≠ significant stream) ∧
        (cause.token.kind ≠ .eof → ∀ stream document, ofTokens stream = .ok document →
          ¬ read ++ [cause.token] <+: significant (Cursor.closed stream)) := by
  have hfailure := failure_of_error herror
  cases hfailure with
  | @mk whole after read later halt token ending stop hwhole hend hfinal hlongest hread hrun hstep
      _ hle =>
    refine ⟨stop.complaint token, halt, rfl, ?_, ?_, whole, after, read, later, hwhole, ?_, ?_, ?_,
      hle, exists_ofTokens_of_run hrun, ?_⟩
    · intro inner other hpremature
      have hblames := stop.blames_complaint token
      rw [hpremature] at hblames
      cases hblames
    · rw [SyntaxError.rootCause, Place.rootCause_complaint]
    · intro eof heof
      rw [exists_ofTokens_concat_iff whole heof, Place.significant_of_run hend]
      exact ⟨ending, hend, hfinal⟩
    · intro longer eof document hstarts heof hok
      obtain ⟨place, hplace, hplaceFinal⟩ :=
        (exists_ofTokens_concat_iff longer heof).mp ⟨document, hok⟩
      rw [significant_of_start hstarts] at hplace
      obtain ⟨back, hback⟩ := hstarts
      exact hlongest longer back place hback.symm hplace hplaceFinal
    · rwa [Place.token_complaint]
    · rw [Place.token_complaint]
      intro hkind stream document hok
      exact not_prefix_of_run hrun hstep (fun _ => hkind) hok

/-- Behind a comma without a target the end of the file is to blame, and what could have stood alone
ends in front of the comma. -/
theorem error_shape_dangling_comma :
    ∃ error, ofTokens (lex "directive @a on B,") = .error error ∧
      error.rootCause.token = ⟨.eof, ⟨0, 18⟩, ""⟩ ∧ error.token = ⟨.comma, ⟨0, 17⟩, ""⟩ ∧
      ∃ whole after, significant (Cursor.closed (lex "directive @a on B,")) =
          whole ++ ⟨.comma, ⟨0, 17⟩, ""⟩ :: after ∧
        ∃ document, ofTokens (whole ++ [Place.sign .eof]) = .ok document := by
  have htokens : (match ofTokens (lex "directive @a on B,") with
      | .ok _ => none
      | .error error => some (error.rootCause.token, error.token)) =
        some (⟨.eof, ⟨0, 18⟩, ""⟩, ⟨.comma, ⟨0, 17⟩, ""⟩) := by
    decide +kernel
  cases herror : ofTokens (lex "directive @a on B,") with
  | ok document => simp [herror] at htokens
  | error error =>
    obtain ⟨hroot, htoken⟩ : error.rootCause.token = ⟨.eof, ⟨0, 18⟩, ""⟩ ∧
        error.token = ⟨.comma, ⟨0, 17⟩, ""⟩ := by simpa [herror] using htokens
    obtain ⟨cause, halt, rfl, _, _, whole, after, _, _, hwhole, hread, _⟩ := error_shape herror
    obtain rfl : halt = ⟨.comma, ⟨0, 17⟩, ""⟩ := htoken
    exact ⟨_, rfl, hroot, rfl, whole, after, hwhole, hread _ rfl⟩

end Document

end SchemaGen
