import SchemaGen.Proofs.Grammar.Outcome.Rules

namespace SchemaGen

namespace Cursor

theorem getLast?_closed (tokens : List Token) :
    ∃ last, (closed tokens).getLast? = some last ∧ last.kind = .eof := by
  unfold closed
  split
  · exact ⟨_, rfl, rfl⟩
  · rename_i last hlast
    split
    · rename_i hkind
      exact ⟨last, hlast, hkind⟩
    · exact ⟨_, List.getLast?_concat, rfl⟩

theorem closed_of_getLast? {tokens : List Token} {last : Token}
    (hlast : tokens.getLast? = some last) (hkind : last.kind = .eof) : closed tokens = tokens := by
  simp [closed, hlast, hkind]

theorem valid_ofTokens (tokens : List Token) : (ofTokens tokens).Valid := by
  obtain ⟨last, hlast, hkind⟩ := getLast?_closed tokens
  have hpos : 0 < (closed tokens).toArray.size := by
    rw [List.size_toArray]
    exact List.length_pos_of_mem (List.mem_of_getLast? hlast)
  exact ⟨⟨last, hlast, hkind⟩, settled_skipBlanks hlast hkind hpos⟩

theorem clean_ofTokens (tokens : List Token) : (ofTokens tokens).Clean := by
  intro pos error hfurthest
  cases hfurthest

theorem rest_ofTokens (tokens : List Token) :
    (ofTokens tokens).rest = significant (closed tokens) :=
  ahead_skipBlanks _ 0

/-- The end-of-file token that closes the list is always ahead. -/
theorem Valid.rest_ends {cursor : Cursor} (hvalid : cursor.Valid) :
    ∃ front eof, cursor.rest = front ++ [eof] ∧ eof.kind = .eof := by
  obtain ⟨last, hlast, hkind⟩ := hvalid.closed
  obtain ⟨front, hfront⟩ := List.getLast?_eq_some_iff.mp hlast
  obtain ⟨token, hget, _⟩ := hvalid.settled
  have hpos : cursor.pos ≤ front.length := by
    obtain ⟨hlt, _⟩ := Array.getElem?_eq_some_iff.mp hget
    rw [← Array.length_toList, hfront, List.length_append] at hlt
    exact Nat.le_of_lt_succ hlt
  refine ⟨significant (front.drop cursor.pos), last, ?_, hkind⟩
  rw [rest, ahead, hfront, List.drop_append_of_le_length hpos, significant_append]
  simp [significant, hkind]

/-- The last token of the list is the only one with nothing but itself ahead. -/
theorem Valid.atEnd_iff {cursor : Cursor} (hvalid : cursor.Valid) :
    cursor.atEnd = true ↔ cursor.rest = [cursor.peek] := by
  obtain ⟨last, hlast, hkind⟩ := hvalid.closed
  obtain ⟨front, hfront⟩ := List.getLast?_eq_some_iff.mp hlast
  obtain ⟨token, hget, _⟩ := hvalid.settled
  have hsize : cursor.tokens.size = front.length + 1 := by
    rw [← Array.length_toList, hfront, List.length_append, List.length_singleton]
  obtain ⟨hlt, _⟩ := Array.getElem?_eq_some_iff.mp hget
  rw [hvalid.rest_eq, List.cons_eq_cons, atEnd, beq_iff_eq, hsize]
  constructor
  · intro heq
    refine ⟨rfl, ?_⟩
    rw [ahead, List.drop_of_length_le (by rw [Array.length_toList]; omega)]
    rfl
  · rintro ⟨_, hnothing⟩
    by_contra hne
    rw [ahead, hfront, List.drop_append_of_le_length (by omega), significant_append] at hnothing
    simp [significant, hkind] at hnothing

/-- What is left at the end is an end of file. -/
theorem Valid.kind_of_rest_eq {cursor : Cursor} (hvalid : cursor.Valid)
    (hrest : cursor.rest = [cursor.peek]) : cursor.peek.kind = .eof := by
  obtain ⟨front, eof, hends, hkind⟩ := hvalid.rest_ends
  rw [hrest] at hends
  have hsame : cursor.peek = eof := by simpa using congrArg List.getLast? hends
  rw [hsame, hkind]

end Cursor

namespace Grammar

open Rule

variable {cursor reached : Cursor}

theorem endOfInput_eq_ok (hvalid : cursor.Valid) (hrest : cursor.rest = [cursor.peek]) :
    ∃ next, endOfInput cursor = .ok cursor.peek next :=
  ⟨cursor.advance, if_pos ⟨hvalid.kind_of_rest_eq hrest, hvalid.atEnd_iff.mpr hrest⟩⟩

/-- Short of the end, the failure that got furthest is what is wrong. -/
theorem endOfInput_eq_error {pos : Nat} {cause : SyntaxError} (hvalid : cursor.Valid)
    (hrest : cursor.rest ≠ [cursor.peek]) (hfurthest : cursor.furthest = some (pos, cause)) :
    ∃ next, endOfInput cursor = .error (.premature (some cause) cursor.peek) next := by
  refine ⟨{ cursor with furthest := none }, ?_⟩
  unfold endOfInput
  rw [if_neg (fun hend => hrest (hvalid.atEnd_iff.mp hend.2))]
  simp only [Cursor.takeFurthest, hfurthest]
  rfl

/-- What reading a document comes to. -/
inductive Verdict (cursor : Cursor) : EStateM.Result SyntaxError Cursor Document → Prop
  /-- The tokens spell definitions up to the end of the file. -/
  | accepted {tokens : List Token} {eof : Token} {definitions : List Definition} {stop : Place}
      {next : Cursor} (hrest : cursor.rest = tokens ++ [eof]) (heof : eof.kind = .eof)
      (hdefinitions : Repeated IsDefinition tokens definitions)
      (hrun : Place.top.run tokens = some stop) (hfinal : stop.Final) :
      Verdict cursor (.ok { loc := cursor.loc, definitions } next)
  /-- The definitions halt, because somewhere from there on a token leads nowhere. If a document
  could have ended in front of that token, then the token does not end this one. -/
  | refused {whole read later : List Token} {definitions : List Definition} {token : Token}
      {stop : Place} {halted next : Cursor} (hreads : cursor.Reads whole halted)
      (hdefinitions : Repeated IsDefinition whole definitions)
      (hrun : Place.top.run read = some stop) (hrest : cursor.rest = read ++ token :: later)
      (hstep : stop.step token = none) (hlater : stop.Final → later ≠ [])
      (hle : whole.length ≤ read.length)
      (hhalts : whole = read ∨ ComesToComma halted ∨
        StartsDefinition halted.peek ∧ definition.GivenUp halted) :
      Verdict cursor (.error (.premature (some (stop.complaint token)) halted.peek) next)

/-- Where no definition starts, the attempt to read one is what is remembered. -/
theorem furthest_of_givenUp (hclean : cursor.Clean) (hstart : ¬ StartsDefinition cursor.peek)
    (hgivenUp : definition.GivenUp cursor) :
    cursor.furthest = some (cursor.pos, Place.top.complaint cursor.peek) := by
  obtain ⟨spot, error, hfailed, hsame⟩ := hgivenUp
  have hpeek := hsame.peek_eq
  rw [definition_of_not_starts (hpeek ▸ hstart)] at hfailed
  have hrecorded : spot.record (.unexpected definitionPhrase spot.peek) = cursor := by
    cases hfailed
    rfl
  have hblames := SyntaxError.blames_unexpected definitionPhrase spot.peek
  -- The complaint is there already, so recording it once more changes nothing.
  have hagain : cursor.record (.unexpected definitionPhrase cursor.peek) = cursor := by
    rw [hpeek, ← hrecorded, Cursor.record_record hblames hblames]
  have hfurthest := hclean.furthest_record
    (SyntaxError.blames_unexpected definitionPhrase cursor.peek)
  rwa [hagain] at hfurthest

theorem document_eq {definitions : List Definition} (hmany : many definition cursor =
    .ok definitions reached) :
    document cursor =
      match endOfInput reached with
      | .ok _ next => .ok { loc := cursor.loc, definitions } next
      | .error error next => .error error (next.reset cursor.pos) := by
  simp only [document, Rule.sequence, bind_apply, hmany]
  cases endOfInput reached <;> rfl

theorem verdict_document (hvalid : cursor.Valid) (hclean : cursor.Clean) :
    Verdict cursor (document cursor) := by
  have houtcome := outcome_definitions hvalid hclean
  cases hfound : many definition cursor with
  | error error next => cases hfound
  | ok definitions reached =>
    rw [hfound] at houtcome
    rw [document_eq hfound]
    cases houtcome with
    | read hreads hspells hrun hslides hcleanReached hstops =>
      by_cases hend : reached.rest = [reached.peek]
      · obtain ⟨next, hok⟩ := endOfInput_eq_ok hreads.valid hend
        rw [hok]
        exact .accepted (hreads.rest_eq.trans (by rw [hend])) (hreads.valid.kind_of_rest_eq hend)
          hspells hrun (hslides.final_iff.mpr (.inl rfl))
      · have hnone := (Place.top_step_eq_none_iff _).mpr hstops.1
        have hfurthest := furthest_of_givenUp hcleanReached hstops.1 hstops.2
        obtain ⟨next, herror⟩ := endOfInput_eq_error hreads.valid hend hfurthest
        rw [herror, ← hslides.complaint_eq hnone]
        rw [hreads.valid.rest_eq] at hend
        exact .refused hreads hspells hrun (hreads.rest_eq.trans (by rw [hreads.valid.rest_eq]))
          (hslides.step_eq.trans hnone) (fun _ hnothing => hend (by rw [hnothing])) (Nat.le_refl _)
          (.inl rfl)
    | turned hreads hspells hstuck hovertaken hturns =>
      have hkind : reached.peek.kind ≠ .eof := by
        rcases hturns with hcomma | hstart
        · rw [hcomma.1]
          decide
        · rw [hstart.1.kind_eq]
          decide
      have hend : reached.rest ≠ [reached.peek] :=
        fun hrest => hkind (hreads.valid.kind_of_rest_eq hrest)
      obtain ⟨pos, cause, hfurthest, hpos⟩ := hovertaken
      rw [hfurthest] at hstuck
      obtain ⟨next, herror⟩ := endOfInput_eq_error hreads.valid hend hfurthest
      rw [herror]
      obtain ⟨hrun, hrest, hahead, hstep, hinner⟩ := hstuck
      refine .refused hreads hspells hrun hrest hstep (fun hfinal => absurd hfinal hinner) ?_
        (.inr hturns)
      have hshorter := Cursor.length_ahead_le cursor.tokens (Nat.le_of_lt hpos)
      have hlength := congrArg List.length (hreads.rest_eq.symm.trans hrest)
      rw [hahead, ← hreads.sameTokens] at hshorter
      rw [List.length_append, List.length_append, Cursor.rest] at hlength
      omega

/-- Definitions up to the end of the file are read. -/
theorem document_eq_ok {tokens : List Token} {eof : Token} {definitions : List Definition}
    (hvalid : cursor.Valid) (hrest : cursor.rest = tokens ++ [eof]) (heof : eof.kind = .eof)
    (hdefinitions : Repeated IsDefinition tokens definitions) :
    ∃ next, document cursor = .ok { loc := cursor.loc, definitions } next := by
  obtain ⟨reached, hmany, hreads⟩ := accepts_definitions hdefinitions cursor eof [] hvalid hrest heof
  have hleft := hreads.rest_of_append hrest
  have hpeek := hreads.valid.peek_eq hleft
  obtain ⟨next, hend⟩ := endOfInput_eq_ok hreads.valid (by rw [hleft, hpeek])
  exact ⟨next, by rw [document_eq hmany, hend]⟩

end Grammar

namespace Document

open Grammar

theorem verdict_of_ok {tokens : List Token} {document : Document}
    (hok : ofTokens tokens = .ok document) :
    ∃ next, Verdict (Cursor.ofTokens tokens) (.ok document next) := by
  have hverdict := verdict_document (Cursor.valid_ofTokens tokens) (Cursor.clean_ofTokens tokens)
  unfold ofTokens at hok
  cases hfound : Grammar.document (Cursor.ofTokens tokens) with
  | error error next => simp [hfound] at hok
  | ok found next =>
    rw [hfound] at hok hverdict
    cases hok
    exact ⟨next, hverdict⟩

theorem verdict_of_error {tokens : List Token} {error : SyntaxError}
    (herror : ofTokens tokens = .error error) :
    ∃ next, Verdict (Cursor.ofTokens tokens) (.error error next) := by
  have hverdict := verdict_document (Cursor.valid_ofTokens tokens) (Cursor.clean_ofTokens tokens)
  unfold ofTokens at herror
  cases hfound : Grammar.document (Cursor.ofTokens tokens) with
  | ok document next => simp [hfound] at herror
  | error found next =>
    rw [hfound] at herror hverdict
    cases herror
    exact ⟨next, hverdict⟩

/-- A list of tokens is read as a document exactly if it spells that document. -/
theorem ofTokens_eq_ok_iff {tokens : List Token} {document : Document} :
    ofTokens tokens = .ok document ↔
      IsDocument (significant (Cursor.closed tokens)) document := by
  have hvalid := Cursor.valid_ofTokens tokens
  rw [← Cursor.rest_ofTokens]
  have hhead : (Cursor.ofTokens tokens).rest.head? = some (Cursor.ofTokens tokens).peek := by
    rw [hvalid.rest_eq]
    rfl
  constructor
  · intro hok
    obtain ⟨next, hverdict⟩ := verdict_of_ok hok
    cases hverdict with
    | accepted hrest heof hdefinitions _ _ =>
      rw [hrest] at hhead ⊢
      exact .mk hdefinitions heof hhead
  · intro hspells
    generalize hstream : (Cursor.ofTokens tokens).rest = stream at hspells hhead
    obtain ⟨hdefinitions, heof, hfirst⟩ := hspells
    obtain ⟨next, hok⟩ := document_eq_ok hvalid hstream heof hdefinitions
    unfold ofTokens
    rw [hok]
    rw [hhead] at hfirst
    cases hfirst
    rfl

/-- A stream of significant tokens spells one document at most. -/
theorem isDocument_unique {stream : List Token} {first second : Document}
    (hsignificant : significant stream = stream) (hfirst : IsDocument stream first)
    (hsecond : IsDocument stream second) : first = second := by
  have hclosed : Cursor.closed stream = stream := by
    obtain ⟨_, heof, _⟩ := id hfirst
    exact Cursor.closed_of_getLast? List.getLast?_concat heof
  have hread (document : Document) :
      ofTokens stream = .ok document ↔ IsDocument stream document := by
    rw [ofTokens_eq_ok_iff, hclosed, hsignificant]
  have hsame := (hread first).mpr hfirst
  rw [(hread second).mpr hsecond] at hsame
  cases hsame
  rfl

/-- The reader accepts exactly the grammar and builds exactly its tree: a list of tokens is read as
a document if and only if its significant tokens, closed by an end of file, derive that document.
No stream derives two. -/
theorem ofTokens_iff_derivation (tokens : List Token) :
    (∀ document, ofTokens tokens = .ok document ↔
      IsDocument (significant (Cursor.closed tokens)) document) ∧
    ∀ first second, IsDocument (significant (Cursor.closed tokens)) first →
      IsDocument (significant (Cursor.closed tokens)) second → first = second := by
  refine ⟨fun document => ofTokens_eq_ok_iff, ?_⟩
  intro first second
  exact isDocument_unique (significant_of_start (List.prefix_refl _))

/-- Without a closing end of file and with a blank run inside, an empty schema block is read, and
read as nothing else. -/
theorem ofTokens_iff_derivation_schema :
    let tokens : List Token := [⟨.text, ⟨2, 0⟩, "schema"⟩, ⟨.whitespace, ⟨2, 6⟩, "1"⟩,
      ⟨.leftCurly, ⟨2, 7⟩, ""⟩, ⟨.rightCurly, ⟨2, 8⟩, ""⟩]
    ofTokens tokens = .ok ⟨⟨2, 0⟩, [.schema ⟨⟨2, 0⟩, []⟩]⟩ ∧
    ∀ other, IsDocument (significant (Cursor.closed tokens)) other →
      other = ⟨⟨2, 0⟩, [.schema ⟨⟨2, 0⟩, []⟩]⟩ := by
  intro tokens
  obtain ⟨hiff, hunique⟩ := ofTokens_iff_derivation tokens
  have hspells : IsDocument (significant (Cursor.closed tokens))
      ⟨⟨2, 0⟩, [.schema ⟨⟨2, 0⟩, []⟩]⟩ :=
    .mk (.more (.schema ⟨rfl, rfl⟩ (.mk rfl .none rfl)) .none) rfl rfl
  exact ⟨(hiff _).mpr hspells, fun other hother => hunique other _ hother hspells⟩

end Document

end SchemaGen
