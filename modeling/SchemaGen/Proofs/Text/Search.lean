import Mathlib.Data.List.Infix
import SchemaGen.Text.Search

namespace SchemaGen.Text

variable {part front back text : List Char}

theorem holds_iff_isInfix : holds part text = true ↔ part <:+: text := by
  induction text with
  | nil => simp [holds]
  | cons c rest ih => simp [holds, ih, List.infix_cons_iff]

/-- The two differ at some place, so neither of them begins with the other. -/
def Differ (first second : List Char) : Prop := ¬ first <+: second ∧ ¬ second <+: first

/-- Laid on the words from any of their characters on, the part differs from them. So it neither is
in the words nor begins there. -/
def Avoids (part words : List Char) : Prop :=
  ∀ rest ∈ words.tails, rest ≠ [] → Differ part rest

instance (first second : List Char) : Decidable (Differ first second) :=
  inferInstanceAs (Decidable (_ ∧ _))

instance (part words : List Char) : Decidable (Avoids part words) :=
  inferInstanceAs (Decidable (∀ rest ∈ words.tails, _))

theorem avoids_cons {words : List Char} {c : Char} :
    Avoids part (c :: words) ↔ Differ part (c :: words) ∧ Avoids part words := by
  simp [Avoids, List.tails]

theorem Differ.symm {first second : List Char} (hdiffer : Differ first second) :
    Differ second first :=
  And.symm hdiffer

theorem Differ.not_prefix_append (hdiffer : Differ part front) (rest : List Char) :
    ¬ part <+: front ++ rest := by
  intro hprefix
  rcases List.prefix_or_prefix_of_prefix hprefix (List.prefix_append front rest) with h | h
  · exact hdiffer.1 h
  · exact hdiffer.2 h

/-- No occurrence begins in words that the part avoids. -/
theorem holds_append_of_avoids (havoids : Avoids part front) (rest : List Char) :
    holds part (front ++ rest) = holds part rest := by
  induction front with
  | nil => rfl
  | cons c front ih =>
    obtain ⟨hdiffer, hlater⟩ := avoids_cons.mp havoids
    have hbegins : part.isPrefixOf (c :: front ++ rest) = false := by
      rw [Bool.eq_false_iff, ne_eq, List.isPrefixOf_iff_prefix]
      exact hdiffer.not_prefix_append rest
    rw [List.cons_append, holds, ← List.cons_append, hbegins, Bool.false_or, ih hlater]

/-- No occurrence that begins in the text ends in words behind it that avoid the part. -/
theorem prefix_append_iff_of_avoids (havoids : Avoids back part) (rest : List Char) :
    part <+: text ++ (back ++ rest) ↔ part <+: text := by
  refine ⟨fun hprefix => ?_, fun hprefix => hprefix.trans (List.prefix_append _ _)⟩
  rcases List.prefix_or_prefix_of_prefix hprefix (List.prefix_append text _) with h | ⟨beyond, rfl⟩
  · exact h
  · -- What of the part lies beyond the text would have to start the words behind it.
    by_cases hbeyond : beyond = []
    · simp [hbeyond]
    · have hdiffer : Differ back beyond :=
        havoids beyond ((List.mem_tails _ _).mpr (List.suffix_append text beyond)) hbeyond
      have hends : beyond <+: back ++ rest := (List.prefix_append_right_inj text).mp hprefix
      exact absurd hends (hdiffer.symm.not_prefix_append rest)

theorem holds_append_append (hpart : part ≠ []) (havoids : Avoids back part) (rest : List Char) :
    holds part (text ++ (back ++ rest)) = (holds part text || holds part (back ++ rest)) := by
  induction text with
  | nil => simp [holds, hpart]
  | cons c text ih =>
    have hbegins : part.isPrefixOf (c :: text ++ (back ++ rest)) = part.isPrefixOf (c :: text) := by
      rw [Bool.eq_iff_iff, List.isPrefixOf_iff_prefix, List.isPrefixOf_iff_prefix]
      exact prefix_append_iff_of_avoids havoids rest
    rw [List.cons_append, holds, ← List.cons_append, hbegins, ih, holds, Bool.or_assoc]

/-- Fixed words that the part avoids, and that avoid the part where something stands in front of
them, add nothing to where it occurs. -/
theorem occursIn_between {part front back : String} (hpart : part.toList ≠ [])
    (hfront : Avoids part.toList front.toList) (hback : Avoids part.toList back.toList)
    (hends : Avoids back.toList part.toList) (first second : String) :
    occursIn part (front ++ first ++ back ++ second) =
      (occursIn part first || occursIn part second) := by
  unfold occursIn
  rw [String.toList_append, String.toList_append, String.toList_append, List.append_assoc,
    List.append_assoc, holds_append_of_avoids hfront, holds_append_append hpart hends,
    holds_append_of_avoids hback]

theorem occursIn_of_front {part front : String} (hoccurs : occursIn part front = true)
    (rest : String) : occursIn part (front ++ rest) = true := by
  unfold occursIn at hoccurs ⊢
  rw [holds_iff_isInfix] at hoccurs ⊢
  rw [String.toList_append]
  exact hoccurs.trans (List.prefix_append _ _).isInfix

theorem occursIn_of_back {part back : String} (hoccurs : occursIn part back = true)
    (front : String) : occursIn part (front ++ back) = true := by
  unfold occursIn at hoccurs ⊢
  rw [holds_iff_isInfix] at hoccurs ⊢
  rw [String.toList_append]
  exact hoccurs.trans (List.suffix_append _ _).isInfix

end SchemaGen.Text
