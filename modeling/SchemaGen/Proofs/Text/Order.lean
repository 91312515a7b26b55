import Mathlib.Data.String.Basic

namespace SchemaGen.Text

/-- A code for characters that can be compared in their place: the codes of two characters differ at
some place, and the smaller character has the smaller value there, whatever stands behind. -/
def KeepsOrder {α : Type} [LT α] (encode : Char → List α) : Prop :=
  ∀ c d : Char, c < d → ∀ front back : List α, encode c ++ front < encode d ++ back

section Codes

variable {α : Type} [LT α] {encode : Char → List α}

theorem flatMap_lt_flatMap (hkeeps : KeepsOrder encode) (hne : ∀ c, encode c ≠ [])
    {chars others : List Char} (hlt : chars < others) :
    chars.flatMap encode < others.flatMap encode := by
  induction chars generalizing others with
  | nil =>
    cases others with
    | nil => cases hlt
    | cons d others =>
      obtain ⟨first, more, hcode⟩ := List.exists_cons_of_ne_nil (hne d)
      rw [List.flatMap_cons, hcode]
      exact List.nil_lt_cons _ _
  | cons c chars ih =>
    cases others with
    | nil => cases hlt
    | cons d others =>
      rw [List.flatMap_cons, List.flatMap_cons]
      rcases List.cons_lt_cons_iff.mp hlt with hfirst | ⟨rfl, hrest⟩
      · exact hkeeps c d hfirst _ _
      · exact List.append_left_lt (ih hrest)

/-- Comparing codes is comparing characters. -/
theorem flatMap_lt_iff [Std.Asymm (· < · : α → α → Prop)] (hkeeps : KeepsOrder encode)
    (hne : ∀ c, encode c ≠ []) (chars others : List Char) :
    chars.flatMap encode < others.flatMap encode ↔ chars < others := by
  refine ⟨fun hlt => ?_, flatMap_lt_flatMap hkeeps hne⟩
  rcases lt_trichotomy chars others with hchars | rfl | hchars
  · exact hchars
  · exact absurd hlt (List.lt_asymm hlt)
  · exact absurd hlt (List.lt_asymm (flatMap_lt_flatMap hkeeps hne hchars))

end Codes

theorem cons_lt_cons_of_lead {first second : Nat} (hlt : first % 256 < second % 256)
    (front back : List UInt8) : UInt8.ofNat first :: front < UInt8.ofNat second :: back := by
  refine List.cons_lt_cons_iff.mpr (.inl (UInt8.lt_iff_toNat_lt.mpr ?_))
  simpa using hlt

/-- Bytes that stand for two numbers, of which the first is not the larger one, decide unless the
numbers are the same. -/
theorem cons_lt_cons_of_digit {first second m n : Nat} (hle : m ≤ n)
    (hlt : m < n → first % 256 < second % 256) {front back : List UInt8}
    (hrest : m = n → first = second ∧ front < back) :
    UInt8.ofNat first :: front < UInt8.ofNat second :: back := by
  rcases Nat.lt_or_eq_of_le hle with hfirst | hsame
  · exact cons_lt_cons_of_lead (hlt hfirst) front back
  · obtain ⟨rfl, hbehind⟩ := hrest hsame
    exact List.cons_lt_cons_iff.mpr (.inr ⟨rfl, hbehind⟩)

/-- Of two characters with different numbers of bytes the one with fewer has the smaller first byte.
With equally many, the bytes hold the digits of the codes to base 64, most significant first. -/
theorem keepsOrder_utf8EncodeChar : KeepsOrder String.utf8EncodeChar := by
  intro c d hlt front back
  have hcodes : c.val.toNat < d.val.toNat := UInt32.lt_iff_toNat_lt.mp hlt
  have hbound : d.val.toNat < 0x110000 := by
    rcases d.valid with hvalid | hvalid <;> omega
  unfold String.utf8EncodeChar
  generalize c.val.toNat = v at *
  generalize d.val.toNat = w at *
  have hone : v / 64 ≤ w / 64 := Nat.div_le_div_right hcodes.le
  have htwo : v / 4096 ≤ w / 4096 := Nat.div_le_div_right hcodes.le
  have hthree : v / 262144 ≤ w / 262144 := Nat.div_le_div_right hcodes.le
  dsimp only
  split_ifs
  -- the larger character never has fewer bytes
  all_goals try omega
  all_goals simp only [List.cons_append, List.nil_append]
  -- where it has more bytes, or each has one, the first bytes decide
  all_goals try exact cons_lt_cons_of_lead (by omega) _ _
  -- left are two, three and four bytes on both sides
  · refine cons_lt_cons_of_digit hone (fun _ => by omega) fun hsame => ⟨by rw [hsame], ?_⟩
    exact cons_lt_cons_of_lead (by omega) _ _
  · refine cons_lt_cons_of_digit htwo (fun _ => by omega) fun hsame => ⟨by rw [hsame], ?_⟩
    refine cons_lt_cons_of_digit hone (fun _ => by omega) fun hsame => ⟨by rw [hsame], ?_⟩
    exact cons_lt_cons_of_lead (by omega) _ _
  · refine cons_lt_cons_of_digit hthree (fun _ => by omega) fun hsame => ⟨by rw [hsame], ?_⟩
    refine cons_lt_cons_of_digit htwo (fun _ => by omega) fun hsame => ⟨by rw [hsame], ?_⟩
    refine cons_lt_cons_of_digit hone (fun _ => by omega) fun hsame => ⟨by rw [hsame], ?_⟩
    exact cons_lt_cons_of_lead (by omega) _ _

/-- The bytes of a text in UTF-8. -/
def bytes (text : String) : List UInt8 := text.toUTF8.data.toList

theorem bytes_eq_flatMap (text : String) :
    bytes text = text.toList.flatMap String.utf8EncodeChar := by
  rw [bytes, String.toUTF8_eq_toByteArray, ← String.utf8Encode_toList, List.utf8Encode,
    List.toList_data_toByteArray]

/-- The order of the bytes is the order of the characters. -/
theorem bytes_lt_iff (text other : String) : bytes text < bytes other ↔ text < other := by
  rw [bytes_eq_flatMap, bytes_eq_flatMap,
    flatMap_lt_iff keepsOrder_utf8EncodeChar fun _ => String.utf8EncodeChar_ne_nil]
  rfl

/-- The order of the code points is the order of the characters. -/
theorem codes_lt_iff (text other : String) :
    text.toList.map Char.toNat < other.toList.map Char.toNat ↔ text < other := by
  have hkeeps : KeepsOrder fun c => [c.toNat] := by
    intro c d hlt front back
    exact List.cons_lt_cons_iff.mpr (.inl (UInt32.lt_iff_toNat_lt.mp hlt))
  rw [List.map_eq_flatMap, List.map_eq_flatMap, flatMap_lt_iff hkeeps (by simp)]
  rfl

end SchemaGen.Text
