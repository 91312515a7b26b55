import SchemaGen.Proofs.Grammar.Refusal

namespace SchemaGen

/-- Whatever stands before a token, something stands first. -/
theorem append_cons_eq_headD_cons (front : List Token) (token : Token) (later : List Token) :
    ∃ tokens, front ++ token :: later = front.headD token :: tokens := by
  cases front with
  | nil => exact ⟨later, rfl⟩
  | cons first tokens => exact ⟨_, rfl⟩

namespace Grammar

variable {α : Type} {part : List Token → α → Prop}

/-- A token that may follow, or the first of some parts that all start with one that may. -/
theorem Repeated.follow_headD {follow : Token → Prop}
    (hfirst : ∀ {tokens value}, part tokens value →
      ∃ token more, tokens = token :: more ∧ follow token)
    {tokens : List Token} {values : List α} (hrun : Repeated part tokens values) {after : Token}
    (hafter : follow after) : follow (tokens.headD after) := by
  cases hrun with
  | none => exact hafter
  | more hpart _ =>
    obtain ⟨token, more, rfl, hfollow⟩ := hfirst hpart
    exact hfollow

theorem Behind.starts {kind : TokenKind} {follow : Token → Prop}
    (hsign : ∀ token : Token, token.kind = kind → follow token) {tokens : List Token} {value : α}
    (hbehind : Behind kind part tokens value) :
    ∃ token more, tokens = token :: more ∧ follow token := by
  obtain ⟨hkind, _⟩ := hbehind
  exact ⟨_, _, rfl, hsign _ hkind⟩

end Grammar

namespace Rule

variable {α β : Type}

/-- Wherever these tokens stand in front of a suitable one, the rule reads them as this value. -/
def Accepts (rule : Rule α) (tokens : List Token) (value : α) (follow : Token → Prop) : Prop :=
  ∀ (cursor : Cursor) (after : Token) (later : List Token), cursor.Valid →
    cursor.rest = tokens ++ after :: later → follow after →
    ∃ next, rule cursor = .ok value next ∧ cursor.Reads tokens next

/-- No condition. -/
def Anything {γ : Type} (_ : γ) : Prop := True

theorem Accepts.mono {rule : Rule α} {tokens : List Token} {value : α} {follow fewer : Token → Prop}
    (haccepts : Accepts rule tokens value follow) (hfewer : ∀ token, fewer token → follow token) :
    Accepts rule tokens value fewer :=
  fun cursor after later hvalid hrest hafter =>
    haccepts cursor after later hvalid hrest (hfewer after hafter)

theorem accepts_pure (value : α) (follow : Token → Prop) :
    Accepts (pure value) [] value follow := by
  intro cursor after later hvalid _ _
  exact ⟨cursor, rfl, hvalid.reads_self⟩

theorem accepts_token {kind : TokenKind} {token : Token} (hkind : token.kind = kind)
    (heof : kind ≠ .eof) : Accepts (Rule.token kind) [token] token Anything := by
  intro cursor after later hvalid hrest _
  have hpeek := hvalid.peek_eq hrest
  refine ⟨cursor.advance, ?_, ?_⟩
  · simp [Rule.token, take, hpeek, hkind]
  · have hreads := hvalid.reads_advance (by rw [hpeek, hkind]; exact heof)
    rwa [hpeek] at hreads

theorem accepts_keyword {word : String} {token : Token} (hword : token.IsWord word) :
    Accepts (keyword word) [token] token Anything := by
  intro cursor after later hvalid hrest _
  have hpeek := hvalid.peek_eq hrest
  refine ⟨cursor.advance, ?_, ?_⟩
  · simp [keyword, take, hpeek, hword.1, hword.2]
  · have hreads := hvalid.reads_advance (by rw [hpeek, hword.1]; decide)
    rwa [hpeek] at hreads

theorem accepts_closing {kind : TokenKind} {token : Token} (hkind : token.kind = kind)
    (heof : kind ≠ .eof) : Accepts (closing kind) [token] token Anything := by
  intro cursor after later hvalid hrest hfollow
  obtain ⟨next, heq, hreads⟩ := accepts_token hkind heof cursor after later hvalid hrest hfollow
  have hpeek := hvalid.peek_eq hrest
  refine ⟨next, ?_, hreads⟩
  simpa [closing, Rule.token, hpeek, hkind] using heq

theorem accepts_unopened (kind : TokenKind) :
    Accepts (unopened kind) [] () (·.kind ≠ kind) := by
  intro cursor after later hvalid hrest hfollow
  rw [← hvalid.peek_eq hrest] at hfollow
  exact ⟨cursor, if_neg hfollow, hvalid.reads_self⟩

/-- For whoever tries it, a rule that misses reads nothing. -/
theorem Misses.reads_nothing {rule : Rule α} {cursor : Cursor} (hmiss : rule.Misses cursor)
    (hvalid : cursor.Valid) :
    ∃ error next, rule cursor = .error error next ∧ cursor.Reads [] next := by
  obtain ⟨error, _, heq⟩ := hmiss
  have hspot := Cursor.sameSpot_record cursor error
  exact ⟨error, cursor.record error, heq, hspot.valid hvalid, hspot.tokens_eq, hspot.rest_eq.symm⟩

/-- Two rules in a row read one run behind the other, if the second run starts with a token that may
follow the first. -/
theorem Accepts.bind {first : Rule α} {next : α → Rule β} {front back : List Token} {value : α}
    {result : β} {middle follow : Token → Prop} (hfirst : Accepts first front value middle)
    (hnext : Accepts (next value) back result follow)
    (hmiddle : ∀ after, follow after → middle (back.headD after)) :
    Accepts (first >>= next) (front ++ back) result follow := by
  intro cursor after later hvalid hrest hfollow
  rw [List.append_assoc] at hrest
  obtain ⟨laterFirst, hsplit⟩ := append_cons_eq_headD_cons back after later
  obtain ⟨reached, heq, hreads⟩ := hfirst cursor _ laterFirst hvalid (by rw [hrest, hsplit])
    (hmiddle after hfollow)
  obtain ⟨last, hlast, hreadsLast⟩ := hnext reached after later hreads.valid
    (hreads.rest_of_append hrest) hfollow
  exact ⟨last, by simp [bind_apply, heq, hlast], hreads.trans hreadsLast⟩

/-- A single token that anything may follow, and the rest behind it. -/
theorem Accepts.bind_token {first : Rule α} {next : α → Rule β} {token : Token}
    {back : List Token} {value : α} {result : β} {follow : Token → Prop}
    (hfirst : Accepts first [token] value Anything)
    (hnext : Accepts (next value) back result follow) :
    Accepts (first >>= next) (token :: back) result follow :=
  hfirst.bind hnext (fun _ _ => trivial)

theorem Accepts.map {first : Rule α} {tokens : List Token} {value : α} {follow : Token → Prop}
    (hfirst : Accepts first tokens value follow) (f : α → β) :
    Accepts (first >>= fun found => pure (f found)) tokens (f value) follow := by
  have hboth : Accepts (first >>= fun found => pure (f found)) (tokens ++ []) (f value) follow :=
    hfirst.bind (accepts_pure (f value) follow) (fun _ hafter => hafter)
  rwa [List.append_nil] at hboth

theorem Accepts.sequence {parts : Location → Rule α} {token : Token} {tokens : List Token}
    {value : α} {follow : Token → Prop}
    (hparts : Accepts (parts token.loc) (token :: tokens) value follow) :
    Accepts (sequence parts) (token :: tokens) value follow := by
  intro cursor after later hvalid hrest hfollow
  obtain ⟨next, heq, hreads⟩ := hparts cursor after later hvalid hrest hfollow
  have hloc : cursor.loc = token.loc := by rw [Cursor.loc, hvalid.peek_eq hrest]
  exact ⟨next, by simp [Rule.sequence, hloc, heq], hreads⟩

/-- An optional part that is there is read. -/
theorem Accepts.optional {part : Rule α} {tokens : List Token} {value : α} {follow : Token → Prop}
    (hpart : Accepts part tokens value follow) :
    Accepts (optional part) tokens (some value) follow := by
  intro cursor after later hvalid hrest hfollow
  obtain ⟨next, heq, hreads⟩ := hpart cursor after later hvalid hrest hfollow
  exact ⟨next, by simp [Rule.optional, heq], hreads⟩

/-- An optional part that misses reads nothing. -/
theorem accepts_optional_none {part : Rule α} {follow : Token → Prop}
    (hmiss : ∀ cursor : Cursor, follow cursor.peek → part.Misses cursor) :
    Accepts (optional part) [] none follow := by
  intro cursor after later hvalid hrest hfollow
  rw [← hvalid.peek_eq hrest] at hfollow
  obtain ⟨error, next, heq, hreads⟩ := (hmiss cursor hfollow).reads_nothing hvalid
  exact ⟨next, by simp [Rule.optional, heq], hreads⟩

/-- The alternative that reads the tokens is reached if the ones before it miss. -/
theorem Accepts.choice {rule : Rule α} {token : Token} {tokens : List Token} {value : α}
    {follow : Token → Prop} (expected : String) {front : List (Rule α)} (back : List (Rule α))
    (hrule : Accepts rule (token :: tokens) value follow)
    (hmiss : ∀ other ∈ front, ∀ cursor : Cursor, cursor.peek = token → other.Misses cursor) :
    Accepts (choice expected (front ++ rule :: back)) (token :: tokens) value follow := by
  intro cursor after later hvalid hrest hfollow
  rw [← hvalid.peek_eq hrest] at hmiss
  obtain ⟨reached, hfirst, hsame, _, _⟩ := firstOf_of_misses cursor hmiss (rule :: back)
  obtain ⟨next, heq, hreads⟩ := hrule reached after later (hsame.valid hvalid)
    (hsame.rest_eq.trans hrest) hfollow
  refine ⟨next, ?_, hsame.symm.reads hreads⟩
  simp [Rule.choice, hfirst, firstOf, heq]

/-- Wherever these tokens stand, the rule finds something to read. It may read further than they
go. -/
def Succeeds (rule : Rule α) (tokens : List Token) : Prop :=
  ∀ (cursor : Cursor) (after : Token) (later : List Token), cursor.Valid →
    cursor.rest = tokens ++ after :: later → ∃ value next, rule cursor = .ok value next

theorem Accepts.succeeds {rule : Rule α} {tokens : List Token} {value : α}
    (haccepts : Accepts rule tokens value Anything) : rule.Succeeds tokens := by
  intro cursor after later hvalid hrest
  obtain ⟨next, heq, _⟩ := haccepts cursor after later hvalid hrest trivial
  exact ⟨value, next, heq⟩

theorem Accepts.bind_succeeds {first : Rule α} {next : α → Rule β} {token : Token}
    {back : List Token} {value : α} (hfirst : Accepts first [token] value Anything)
    (hnext : (next value).Succeeds back) : (first >>= next).Succeeds (token :: back) := by
  intro cursor after later hvalid hrest
  obtain ⟨laterFirst, hsplit⟩ := append_cons_eq_headD_cons back after later
  obtain ⟨reached, heq, hreads⟩ := hfirst cursor _ laterFirst hvalid
    (by rw [hrest, List.cons_append, hsplit]; rfl) trivial
  obtain ⟨result, last, hlast⟩ := hnext reached after later hreads.valid
    (hreads.rest_of_append hrest)
  exact ⟨result, last, by simp [bind_apply, heq, hlast]⟩

theorem Succeeds.sequence {parts : Location → Rule α} {tokens : List Token}
    (hparts : ∀ loc, (parts loc).Succeeds tokens) : (sequence parts).Succeeds tokens := by
  intro cursor after later hvalid hrest
  obtain ⟨value, next, heq⟩ := hparts cursor.loc cursor after later hvalid hrest
  exact ⟨value, next, by simp [Rule.sequence, heq]⟩

theorem Succeeds.choice {rule : Rule α} {token : Token} {tokens : List Token} (expected : String)
    {front : List (Rule α)} (back : List (Rule α)) (hrule : rule.Succeeds (token :: tokens))
    (hmiss : ∀ other ∈ front, ∀ cursor : Cursor, cursor.peek = token → other.Misses cursor) :
    (choice expected (front ++ rule :: back)).Succeeds (token :: tokens) := by
  intro cursor after later hvalid hrest
  rw [← hvalid.peek_eq hrest] at hmiss
  obtain ⟨reached, hfirst, hsame, _, _⟩ := firstOf_of_misses cursor hmiss (rule :: back)
  obtain ⟨value, next, heq⟩ := hrule reached after later (hsame.valid hvalid)
    (hsame.rest_eq.trans hrest)
  exact ⟨value, next, by simp [Rule.choice, hfirst, firstOf, heq]⟩

/-- A repetition that goes on behind a part that was read. -/
theorem many_of_ok {part : Rule α} {value : α} {cursor next : Cursor}
    (hpart : part cursor = .ok value next) (hprogress : next.remaining < cursor.remaining) :
    ∃ values last, many part next = .ok values last ∧
      many part cursor = .ok (value :: values) last := by
  refine ⟨_, _, rfl, ?_⟩
  conv =>
    lhs
    rw [many, manyFrom, hpart]
  simp only [if_pos hprogress]

theorem many_of_error {part : Rule α} {error : SyntaxError} {cursor next : Cursor}
    (hpart : part cursor = .error error next) : many part cursor = .ok [] next := by
  rw [many, manyFrom, hpart]

/-- A separated run that goes on behind a separator and a part. -/
theorem separatedTail_of_ok {part : Rule α} {separator : Rule β} {value : α} {cursor next : Cursor}
    (hboth : (separator >>= fun _ => part) cursor = .ok value next)
    (hprogress : next.remaining < cursor.remaining) :
    separatedTail part separator cursor =
      match separatedTail part separator next with
      | .ok values last => .ok (value :: values) last
      | .error error last => .error error last := by
  rw [bind_apply] at hboth
  conv =>
    lhs
    rw [separatedTail]
  cases hseparator : separator cursor with
  | error error failed => simp [hseparator] at hboth
  | ok sign reached =>
    simp only [hseparator] at hboth
    cases htail : separatedTail part separator next <;>
      simp only [hboth, if_pos hprogress, htail]

/-- A separator without a part behind it makes the run fail. -/
theorem separatedTail_of_error {part : Rule α} {separator : Rule β} {sign : β}
    {error : SyntaxError} {cursor reached next : Cursor}
    (hseparator : separator cursor = .ok sign reached)
    (hboth : (separator >>= fun _ => part) cursor = .error error next) :
    separatedTail part separator cursor = .error error next := by
  rw [bind_apply, hseparator] at hboth
  rw [separatedTail, hseparator]
  simp only at hboth
  simp only [hboth]

/-- A repetition reads all the parts that are there, if a part may be followed by another and the
token behind the last one starts no further part. -/
theorem accepts_many {part : Rule α} {spells : List Token → α → Prop} {follow stop : Token → Prop}
    (hpart : ∀ {tokens value}, spells tokens value →
      Accepts part tokens value follow ∧ ∃ token more, tokens = token :: more ∧ follow token)
    (hmiss : ∀ cursor : Cursor, stop cursor.peek → part.Misses cursor)
    (hstop : ∀ token, stop token → follow token) {tokens : List Token} {values : List α}
    (hrun : Grammar.Repeated spells tokens values) : Accepts (many part) tokens values stop := by
  induction hrun with
  | none =>
    intro cursor after later hvalid hrest hafter
    rw [← hvalid.peek_eq hrest] at hafter
    obtain ⟨error, next, heq, hreads⟩ := (hmiss cursor hafter).reads_nothing hvalid
    exact ⟨next, many_of_error heq, hreads⟩
  | @more front back value values hspells hmore ih =>
    intro cursor after later hvalid hrest hafter
    obtain ⟨haccepts, first, more, rfl, _⟩ := hpart hspells
    rw [List.append_assoc] at hrest
    have hfollow := hmore.follow_headD (fun h => (hpart h).2) (hstop after hafter)
    obtain ⟨laterFirst, hsplit⟩ := append_cons_eq_headD_cons back after later
    obtain ⟨next, heq, hreads⟩ := haccepts cursor _ laterFirst hvalid (by rw [hrest, hsplit])
      hfollow
    obtain ⟨last, hlast, hreadsLast⟩ := ih next after later hreads.valid
      (hreads.rest_of_append hrest) hafter
    refine ⟨last, ?_, hreads.trans hreadsLast⟩
    obtain ⟨values, final, hmany, hall⟩ := many_of_ok heq (hreads.remaining_lt hvalid)
    rw [hmany] at hlast
    cases hlast
    exact hall

/-- Parts behind separators are read to the last, if a separator may follow a part. -/
theorem accepts_separatedTail {part : Rule α} {spells : List Token → α → Prop} {kind : TokenKind}
    {follow : Token → Prop} (heof : kind ≠ .eof)
    (hpart : ∀ {tokens value}, spells tokens value → Accepts part tokens value follow)
    (hsign : ∀ token : Token, token.kind = kind → follow token)
    {tokens : List Token} {values : List α}
    (hrun : Grammar.Repeated (Grammar.Behind kind spells) tokens values) :
    Accepts (separatedTail part (token kind)) tokens values
      (fun after => after.kind ≠ kind ∧ follow after) := by
  induction hrun with
  | none =>
    intro cursor after later hvalid hrest hafter
    rw [← hvalid.peek_eq hrest] at hafter
    obtain ⟨error, next, heq, hreads⟩ := (misses_token hafter.1).reads_nothing hvalid
    exact ⟨next, by rw [separatedTail, heq], hreads⟩
  | @more front back value values hspells hmore ih =>
    intro cursor after later hvalid hrest hafter
    obtain @⟨sign, front, _, hkind, hvalue⟩ := hspells
    have hboth : Accepts (token kind >>= fun _ => part) ([sign] ++ front) value follow :=
      (accepts_token hkind heof).bind (hpart hvalue) (fun _ _ => trivial)
    rw [List.append_assoc] at hrest
    have hfollow := hmore.follow_headD (Grammar.Behind.starts hsign) hafter.2
    obtain ⟨laterFirst, hsplit⟩ := append_cons_eq_headD_cons back after later
    obtain ⟨next, heq, hreads⟩ := hboth cursor _ laterFirst hvalid (by rw [hrest, hsplit]; rfl)
      hfollow
    obtain ⟨last, hlast, hreadsLast⟩ := ih next after later hreads.valid
      (hreads.rest_of_append hrest) hafter
    refine ⟨last, ?_, hreads.trans hreadsLast⟩
    rw [separatedTail_of_ok heq (hreads.remaining_lt hvalid), hlast]

/-- A separated run with a first part is read to the last. -/
theorem accepts_separated_some {part : Rule α} {spells : List Token → α → Prop} {kind : TokenKind}
    {follow : Token → Prop} (heof : kind ≠ .eof)
    (hpart : ∀ {tokens value}, spells tokens value → Accepts part tokens value follow)
    (hsign : ∀ token : Token, token.kind = kind → follow token)
    {front back : List Token} {value : α} {values : List α} (hfirst : spells front value)
    (hrun : Grammar.Repeated (Grammar.Behind kind spells) back values) :
    Accepts (separated part (token kind)) (front ++ back) (value :: values)
      (fun after => after.kind ≠ kind ∧ follow after) := by
  intro cursor after later hvalid hrest hafter
  rw [List.append_assoc] at hrest
  have hfollow := hrun.follow_headD (Grammar.Behind.starts hsign) hafter.2
  obtain ⟨laterFirst, hsplit⟩ := append_cons_eq_headD_cons back after later
  obtain ⟨next, heq, hreads⟩ := hpart hfirst cursor _ laterFirst hvalid (by rw [hrest, hsplit])
    hfollow
  obtain ⟨last, hlast, hreadsLast⟩ := accepts_separatedTail heof hpart hsign hrun next after later
    hreads.valid (hreads.rest_of_append hrest) hafter
  exact ⟨last, by simp [separated, heq, hlast], hreads.trans hreadsLast⟩

/-- A separated run whose first part misses is empty. -/
theorem accepts_separated_none {part : Rule α} {separator : Rule β} {follow : Token → Prop}
    (hmiss : ∀ cursor : Cursor, follow cursor.peek → part.Misses cursor) :
    Accepts (separated part separator) [] [] follow := by
  intro cursor after later hvalid hrest hfollow
  rw [← hvalid.peek_eq hrest] at hfollow
  obtain ⟨error, next, heq, hreads⟩ := (hmiss cursor hfollow).reads_nothing hvalid
  exact ⟨next, by simp [separated, heq], hreads⟩

end Rule

end SchemaGen
