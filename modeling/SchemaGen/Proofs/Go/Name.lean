import Mathlib.Data.List.Basic
import SchemaGen.Go.Name

namespace SchemaGen

namespace Text

/-- What holds of the 128 characters of ASCII one by one holds of every character in it. -/
theorem ascii_induction {p : Char → Prop} (hall : ∀ code ∈ List.range 0x80, p (Char.ofNat code))
    {c : Char} (hascii : c.toNat < 0x80) : p c := by
  have hc := hall c.toNat (List.mem_range.mpr hascii)
  rwa [Char.ofNat_toNat] at hc

theorem upperCase_of_ascii {c : Char} (hascii : c.toNat < 0x80) : upperCase c = [c.toUpper] :=
  if_pos hascii

theorem upperCase_toUpper {c : Char} (hascii : c.toNat < 0x80) :
    upperCase c.toUpper = [c.toUpper] := by
  have hupper : c.toUpper.toNat < 0x80 ∧ c.toUpper.toUpper = c.toUpper :=
    ascii_induction (p := fun c => c.toUpper.toNat < 0x80 ∧ c.toUpper.toUpper = c.toUpper)
      (by decide +kernel) hascii
  rw [upperCase_of_ascii hupper.1, hupper.2]

end Text

namespace Go

open Text

/-- A name of ASCII letters and underscores. -/
def IsAsciiName (name : String) : Prop :=
  ∀ c ∈ name.toList, c.isAlpha = true ∨ c = '_'

instance (name : String) : Decidable (IsAsciiName name) :=
  decidable_of_iff (name.toList.all fun c => c.isAlpha || c == '_') (by simp [IsAsciiName])

theorem toNat_lt_of_isAsciiName {name : String} (hname : IsAsciiName name) :
    ∀ c ∈ name.toList, c.toNat < 0x80 := by
  intro c hmem
  have hcode : c.toNat = c.val.toNat := rfl
  rcases hname c hmem with halpha | rfl
  · rcases (Bool.or_eq_true _ _).mp halpha with hupper | hlower
    · have hlast := UInt32.le_iff_toNat_le.mp (of_decide_eq_true hupper).2
      have hZ : 'Z'.val.toNat = 90 := rfl
      omega
    · have hbelow := ((Bool.and_eq_true _ _).mp hlower).2
      have hlast := UInt32.le_iff_toNat_le.mp (of_decide_eq_true hbelow)
      have hz : 'z'.val.toNat = 122 := rfl
      omega
  · decide

theorem titleChars_of_ascii {c : Char} (hascii : c.toNat < 0x80) (rest : List Char) :
    titleChars (c :: rest) = c.toUpper :: rest := by
  rw [titleChars, upperCase_of_ascii hascii]
  rfl

theorem toList_title {name : String} (hname : IsAsciiName name) :
    (title name).toList = name.toList.modifyHead Char.toUpper := by
  rw [title, String.toList_ofList]
  cases hlist : name.toList with
  | nil => rfl
  | cons c rest =>
    exact titleChars_of_ascii (toNat_lt_of_isAsciiName hname c (by simp [hlist])) rest

theorem length_title {name : String} (hname : IsAsciiName name) :
    (title name).length = name.length := by
  rw [← String.length_toList, toList_title hname, List.length_modifyHead, String.length_toList]

theorem beforeId?_eq_some_iff {name before : List Char} :
    beforeId? name = some before ↔ name = before ++ ['I', 'd'] := by
  unfold beforeId?
  constructor
  · intro hbefore
    split at hbefore
    · rename_i hsuffix
      obtain ⟨front, rfl⟩ := List.isSuffixOf_iff_suffix.mp hsuffix
      simpa using hbefore
    · cases hbefore
  · rintro rfl
    simp

/-- From an `I` on a name is not touched by the upper case of its first character. -/
theorem titleChars_append_cons (before rest : List Char) :
    titleChars (before ++ 'I' :: rest) = titleChars before ++ 'I' :: rest := by
  cases before with
  | nil => rfl
  | cons c front => simp [titleChars]

theorem title_append_id (before : String) : title (before ++ "Id") = title before ++ "Id" := by
  rw [← String.toList_inj]
  simp [title, titleChars_append_cons]

theorem memberName_append_id (before : String) :
    memberName (before ++ "Id") = title before ++ "ID" := by
  have hbefore : beforeId? (before ++ "Id").toList = some before.toList := by
    rw [beforeId?_eq_some_iff]
    simp
  rw [memberName, hbefore, ← String.toList_inj]
  simp [title]

theorem memberName_of_not_id {name : String} (hsuffix : ∀ before, name ≠ before ++ "Id")
    (hid : name ≠ "id") : memberName name = title name := by
  cases hbefore : beforeId? name.toList with
  | none => rw [memberName, hbefore, if_neg hid]
  | some before =>
    rw [beforeId?_eq_some_iff] at hbefore
    exact absurd (String.toList_inj.mp (by simpa using hbefore)) (hsuffix (String.ofList before))

/-- The identifier of any name is its title form, apart from the spelling of a final `Id`. -/
theorem memberName_cases (name : String) :
    (∃ before, title name = before ++ "Id" ∧ memberName name = before ++ "ID") ∨
      (∀ before, name ≠ before ++ "Id") ∧ name ≠ "id" ∧ memberName name = title name := by
  by_cases hsuffix : ∃ before, name = before ++ "Id"
  · obtain ⟨before, rfl⟩ := hsuffix
    exact .inl ⟨title before, title_append_id before, memberName_append_id before⟩
  · rw [not_exists] at hsuffix
    by_cases hid : name = "id"
    · subst hid
      exact .inl ⟨"", by decide, by decide⟩
    · exact .inr ⟨hsuffix, hid, memberName_of_not_id hsuffix hid⟩

theorem toUpper_eq_I {c : Char} (hascii : c.toNat < 0x80) (hupper : c.toUpper = 'I') :
    c = 'I' ∨ c = 'i' :=
  ascii_induction (p := fun c => c.toUpper = 'I' → c = 'I' ∨ c = 'i') (by decide +kernel) hascii
    hupper

/-- A name without a final `Id` has none in title case either, unless it is `id`. -/
theorem title_ne_append_id {name : String} (hname : IsAsciiName name)
    (hsuffix : ∀ before, name ≠ before ++ "Id") (hid : name ≠ "id") (before : String) :
    title name ≠ before ++ "Id" := by
  intro htitle
  have hchars : titleChars name.toList = before.toList ++ ['I', 'd'] := by
    simpa [title] using congrArg String.toList htitle
  cases hlist : name.toList with
  | nil => simp [hlist, titleChars] at hchars
  | cons c rest =>
    have hascii := toNat_lt_of_isAsciiName hname c (by simp [hlist])
    rw [hlist, titleChars_of_ascii hascii] at hchars
    cases hfront : before.toList with
    | nil =>
      rw [hfront] at hchars
      obtain ⟨hupper, rfl⟩ := List.cons.inj hchars
      rcases toUpper_eq_I hascii hupper with rfl | rfl
      · exact hsuffix "" (String.toList_inj.mp hlist)
      · exact hid (String.toList_inj.mp hlist)
    | cons d front =>
      rw [hfront] at hchars
      obtain ⟨_, rfl⟩ := List.cons.inj hchars
      exact hsuffix (String.ofList (c :: front)) (String.toList_inj.mp (by simpa using hlist))

/-- The second text is the first with a final `Id` spelled `ID`. -/
def SpelledId (text spelled : String) : Prop :=
  (∃ before, text = before ++ "Id" ∧ spelled = before ++ "ID") ∨
    (∀ before, text ≠ before ++ "Id") ∧ spelled = text

/-- The texts agree up to the spelling of a final `Id` behind `before`. -/
def DifferInId (before text other : String) : Prop :=
  (text = before ++ "Id" ∧ other = before ++ "ID") ∨
    (text = before ++ "ID" ∧ other = before ++ "Id")

theorem append_ID_ne_append_Id (before other : String) : before ++ "ID" ≠ other ++ "Id" := by
  intro heq
  have hchars : before.toList ++ ['I', 'D'] = other.toList ++ ['I', 'd'] := by
    simpa using congrArg String.toList heq
  cases (List.append_inj' hchars rfl).2

theorem spelledId_append_Id {before spelled : String}
    (hspelled : SpelledId (before ++ "Id") spelled) : spelled = before ++ "ID" := by
  rcases hspelled with ⟨front, hfront, rfl⟩ | ⟨hsuffix, _⟩
  · rw [(String.append_left_inj _).mp hfront]
  · exact absurd rfl (hsuffix before)

theorem spelledId_append_ID {before spelled : String}
    (hspelled : SpelledId (before ++ "ID") spelled) : spelled = before ++ "ID" := by
  rcases hspelled with ⟨front, hfront, _⟩ | ⟨_, rfl⟩
  · exact absurd hfront (append_ID_ne_append_Id before front)
  · rfl

/-- Texts that are spelled alike are the same, or differ in the spelling of a final `Id`. -/
theorem SpelledId.eq_iff {text other spelled name : String} (htext : SpelledId text spelled)
    (hother : SpelledId other name) :
    spelled = name ↔ text = other ∨ ∃ before, DifferInId before text other := by
  constructor
  · rintro rfl
    rcases htext with ⟨before, rfl, rfl⟩ | ⟨_, rfl⟩
    · rcases hother with ⟨front, rfl, hfront⟩ | ⟨_, rfl⟩
      · exact .inl (by rw [(String.append_left_inj _).mp hfront])
      · exact .inr ⟨before, .inl ⟨rfl, rfl⟩⟩
    · rcases hother with ⟨front, rfl, rfl⟩ | ⟨_, rfl⟩
      · exact .inr ⟨front, .inr ⟨rfl, rfl⟩⟩
      · exact .inl rfl
  · rintro (rfl | ⟨before, ⟨rfl, rfl⟩ | ⟨rfl, rfl⟩⟩)
    · rcases htext with ⟨before, rfl, rfl⟩ | ⟨hsuffix, rfl⟩
      · exact (spelledId_append_Id hother).symm
      · rcases hother with ⟨before, hbefore, _⟩ | ⟨_, rfl⟩
        · exact absurd hbefore (hsuffix before)
        · rfl
    · rw [spelledId_append_Id htext, spelledId_append_ID hother]
    · rw [spelledId_append_ID htext, spelledId_append_Id hother]

/-- The identifier is the title form with a final `Id` spelled `ID`. -/
theorem spelledId_memberName {name : String} (hname : IsAsciiName name) :
    SpelledId (title name) (memberName name) := by
  rcases memberName_cases name with hid | ⟨hsuffix, hid, hmember⟩
  · exact .inl hid
  · exact .inr ⟨title_ne_append_id hname hsuffix hid, hmember⟩

theorem title_title {name : String} (hname : IsAsciiName name) :
    title (title name) = title name := by
  rw [← String.toList_inj]
  simp only [title, String.toList_ofList]
  cases hlist : name.toList with
  | nil => rfl
  | cons c rest =>
    have hascii := toNat_lt_of_isAsciiName hname c (by simp [hlist])
    rw [titleChars_of_ascii hascii, titleChars, upperCase_toUpper hascii]
    rfl

theorem memberName_eq_self {name : String} (htitle : title name = name)
    (hsuffix : ∀ before, name ≠ before ++ "Id") : memberName name = name := by
  have hid : name ≠ "id" := by
    rintro rfl
    exact absurd htitle (by decide)
  rw [memberName_of_not_id hsuffix hid, htitle]

/-- An identifier has its upper case already, and no `Id` is left at its end. -/
theorem memberName_memberName {name : String} (hname : IsAsciiName name) :
    memberName (memberName name) = memberName name := by
  have htwice := title_title hname
  rcases spelledId_memberName hname with ⟨before, htitle, hmember⟩ | ⟨hsuffix, hmember⟩
  · rw [htitle, title_append_id, String.append_left_inj] at htwice
    have htitled : title (before ++ "ID") = title before ++ "ID" := by
      rw [← String.toList_inj]
      simp [title, titleChars_append_cons]
    rw [htwice] at htitled
    rw [hmember, memberName_eq_self htitled (append_ID_ne_append_Id before)]
  · rw [hmember, memberName_eq_self htwice hsuffix]

/-- The names differ in nothing but the case of the first letter and the case of the `d` of a final
`Id`: they are of one length, and characters that differ are one letter in two cases, the first of
the names or the last behind an `I`. -/
def DifferInCaseOnly (name other : String) : Prop :=
  name.length = other.length ∧ ∀ i c d, name.toList[i]? = some c → other.toList[i]? = some d →
    c ≠ d → c.toUpper = d.toUpper ∧
      (i = 0 ∨ ∃ before, i = before.length + 1 ∧ DifferInId before (title name) (title other))

/-- Two spellings of a final `Id` differ in its `d`. -/
theorem getElem?_id {before : List Char} {i : Nat} {c d : Char}
    (hc : (before ++ ['I', 'd'])[i]? = some c) (hd : (before ++ ['I', 'D'])[i]? = some d)
    (hne : c ≠ d) : i = before.length + 1 ∧ c = 'd' ∧ d = 'D' := by
  by_cases hbefore : i < before.length
  · rw [List.getElem?_append_left hbefore] at hc hd
    exact absurd (Option.some.inj (hc.symm.trans hd)) hne
  · obtain ⟨j, rfl⟩ := Nat.exists_eq_add_of_le (Nat.le_of_not_lt hbefore)
    rw [List.getElem?_append_right (by omega), Nat.add_sub_cancel_left] at hc hd
    match j, hc, hd with
    | 0, hc, hd => exact absurd ((Option.some.inj hc).symm.trans (Option.some.inj hd)) hne
    | 1, hc, hd => exact ⟨rfl, (Option.some.inj hc).symm, (Option.some.inj hd).symm⟩
    | j + 2, hc, _ => simp at hc

theorem DifferInId.getElem? {before text other : String} (hdiffer : DifferInId before text other)
    {i : Nat} {c d : Char} (hc : text.toList[i]? = some c) (hd : other.toList[i]? = some d)
    (hne : c ≠ d) : i = before.length + 1 ∧ c.toUpper = d.toUpper := by
  rw [← String.length_toList]
  rcases hdiffer with ⟨rfl, rfl⟩ | ⟨rfl, rfl⟩
  · obtain ⟨hi, rfl, rfl⟩ := getElem?_id (by simpa using hc) (by simpa using hd) hne
    exact ⟨hi, by decide⟩
  · obtain ⟨hi, rfl, rfl⟩ := getElem?_id (by simpa using hd) (by simpa using hc) hne.symm
    exact ⟨hi, by decide⟩

theorem DifferInId.length_eq {before text other : String} (hdiffer : DifferInId before text other) :
    text.length = other.length := by
  have hlength : "Id".length = "ID".length := by decide
  rcases hdiffer with ⟨rfl, rfl⟩ | ⟨rfl, rfl⟩
  · rw [String.length_append, String.length_append, hlength]
  · rw [String.length_append, String.length_append, hlength]

theorem getElem?_title {name : String} (hname : IsAsciiName name) {i : Nat} {c : Char}
    (hc : name.toList[i]? = some c) :
    (title name).toList[i]? = some (if i = 0 then c.toUpper else c) := by
  rw [toList_title hname, List.getElem?_modifyHead, hc]
  split <;> rfl

theorem differInCaseOnly_of_titles {name other : String} (hname : IsAsciiName name)
    (hother : IsAsciiName other)
    (htitles : title name = title other ∨
      ∃ before, DifferInId before (title name) (title other)) : DifferInCaseOnly name other := by
  constructor
  · rw [← length_title hname, ← length_title hother]
    rcases htitles with hsame | ⟨before, hdiffer⟩
    · rw [hsame]
    · exact hdiffer.length_eq
  · intro i c d hc hd hne
    have hleft := getElem?_title hname hc
    have hright := getElem?_title hother hd
    -- title forms that have the same character there leave the first letter only
    by_cases hsame : (if i = 0 then c.toUpper else c) = if i = 0 then d.toUpper else d
    · by_cases hi : i = 0
      · rw [if_pos hi, if_pos hi] at hsame
        exact ⟨hsame, .inl hi⟩
      · rw [if_neg hi, if_neg hi] at hsame
        exact absurd hsame hne
    · rcases htitles with htitle | ⟨before, hdiffer⟩
      · rw [htitle, hright] at hleft
        exact absurd (Option.some.inj hleft).symm hsame
      · obtain ⟨rfl, hupper⟩ := hdiffer.getElem? hleft hright hsame
        rw [if_neg (by omega), if_neg (by omega)] at hupper
        exact ⟨hupper, .inr ⟨before, rfl, hdiffer⟩⟩

/-- The identifiers of members, for names of ASCII letters and underscores. The identifier of a name
is its title form with a final `Id` spelled `ID`, and an identifier is its own. Two names have one
identifier exactly if their title forms are the same or differ in the spelling of a final `Id`; such
names differ in nothing but the case of the first letter and of the `d` of a final `Id`. -/
theorem memberName_collisions {name other : String} (hname : IsAsciiName name)
    (hother : IsAsciiName other) :
    SpelledId (title name) (memberName name) ∧
    memberName (memberName name) = memberName name ∧
    (memberName name = memberName other ↔
      title name = title other ∨ ∃ before, DifferInId before (title name) (title other)) ∧
    (memberName name = memberName other → DifferInCaseOnly name other) := by
  have hiff := (spelledId_memberName hname).eq_iff (spelledId_memberName hother)
  exact ⟨spelledId_memberName hname, memberName_memberName hname, hiff,
    fun heq => differInCaseOnly_of_titles hname hother (hiff.mp heq)⟩

/-- The names `id` and `ID` have one identifier, and their letters are the first and the `d`. -/
theorem memberName_collisions_short :
    IsAsciiName "id" ∧ IsAsciiName "ID" ∧ memberName "id" = memberName "ID" ∧
      DifferInId "" (title "id") (title "ID") ∧ DifferInCaseOnly "id" "ID" := by
  have hid : IsAsciiName "id" := by decide
  have hID : IsAsciiName "ID" := by decide
  obtain ⟨_, _, hiff, hcase⟩ := memberName_collisions hid hID
  have hdiffer : DifferInId "" (title "id") (title "ID") := by
    unfold DifferInId
    decide
  have hsame := hiff.mpr (.inr ⟨"", hdiffer⟩)
  exact ⟨hid, hID, hsame, hdiffer, hcase hsame⟩

end Go

end SchemaGen
