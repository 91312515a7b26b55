import Mathlib.Data.List.Sort
import SchemaGen.Listing
import SchemaGen.Proofs.Document.Provenance
import SchemaGen.Proofs.Node.TypeDefs
import SchemaGen.Proofs.Text.Line
import SchemaGen.Proofs.Text.Order

namespace SchemaGen

/-- The names of the type definitions of a document, inputs and root types included, in document
order. -/
def Document.typeNames (document : Document) : List String :=
  (document.definitions.filterMap Definition.typeDef?).map (·.name)

namespace Listing

open Text

theorem names_false (document : Document) : names false document = document.typeNames := by
  rw [names, if_neg Bool.false_ne_true, document.collect_typeDefs]
  rfl

theorem names_true (document : Document) :
    names true document = document.typeNames.mergeSort fun name next => decide (name ≤ next) := by
  rw [names, if_pos rfl, document.collect_typeDefs]
  rfl

theorem names_true_perm (document : Document) : (names true document).Perm document.typeNames := by
  rw [names_true]
  exact List.mergeSort_perm _ _

theorem pairwise_names_true (document : Document) : (names true document).Pairwise (· ≤ ·) := by
  rw [names_true]
  exact List.pairwise_mergeSort' (· ≤ ·) document.typeNames

/-- The names behind a sorted listing decide it, whatever order they come in. -/
theorem names_true_eq_of_perm {document other : Document}
    (hperm : document.typeNames.Perm other.typeNames) : names true document = names true other :=
  List.Perm.eq_of_pairwise (fun _ _ _ _ => le_antisymm) (pairwise_names_true document)
    (pairwise_names_true other)
    ((names_true_perm document).trans (hperm.trans (names_true_perm other).symm))

theorem isIdentifier_of_mem_typeNames {document : Document} (hformed : document.WellFormed) :
    ∀ name ∈ document.typeNames, IsIdentifier name := by
  intro name hmem
  obtain ⟨definition, hdefinition, rfl⟩ := List.mem_map.mp hmem
  obtain ⟨content, hcontent, htype⟩ := List.mem_filterMap.mp hdefinition
  have hwell := hformed content hcontent
  cases content with
  | typeDef found =>
    cases htype
    exact hwell.1
  | schema block => cases htype
  | directiveDef found => cases htype

/-- Names that were read from a text fill one line each. -/
theorem lines_render {document : Document} (hformed : document.WellFormed) (sort : Bool) :
    lines (render sort document) = names sort document := by
  refine lines_join_rows fun name hmem => ?_
  have htypeName : name ∈ document.typeNames := by
    cases sort with
    | false => rwa [names_false] at hmem
    | true => exact (names_true_perm document).mem_iff.mp hmem
  have hname := isIdentifier_of_mem_typeNames hformed name htypeName
  exact ⟨hname.not_mem (by decide), hname.not_mem (by decide)⟩

/-- The listing of a document that was read from a text has the names of its type definitions for
lines, inputs and root types included: all of them, as often as they occur, in document order. The
sorted listing has the same lines, none smaller than the one before it in the order of their UTF-8
bytes, which is the order of their code points. Documents whose type definitions have the same names
in any order have the same sorted listing. -/
theorem listing_complete_and_canonical {source : String} {document : Document}
    (hok : Document.ofText source = .ok document) :
    lines (render false document) = document.typeNames ∧
    (lines (render true document)).Perm document.typeNames ∧
    (lines (render true document)).Pairwise (fun name next => bytes name ≤ bytes next) ∧
    (∀ text other : String, bytes text < bytes other ↔
      text.toList.map Char.toNat < other.toList.map Char.toNat) ∧
    ∀ first second : Document, first.typeNames.Perm second.typeNames →
      render true first = render true second := by
  have hformed := Document.wellFormed_of_ofText hok
  rw [lines_render hformed, lines_render hformed, names_false]
  refine ⟨rfl, names_true_perm document, ?_, fun text other => ?_, fun first second hperm => ?_⟩
  · refine (pairwise_names_true document).imp fun hle => ?_
    rw [← not_lt] at hle
    exact fun hlt => hle ((bytes_lt_iff _ _).mp hlt)
  · rw [bytes_lt_iff, codes_lt_iff]
  · rw [render, render, names_true_eq_of_perm hperm]

/-- A name that is defined twice is listed twice, and a letter of two bytes comes behind the letters
of one. Written backwards the document has the same sorted listing. -/
theorem listing_complete_and_canonical_repeated :
    ∃ document, Document.ofText "type é\x7b\x7d input z\x7b\x7d schema\x7b\x7d type z\x7b\x7d" =
        .ok document ∧
      lines (render false document) = ["é", "z", "z"] ∧
      (lines (render true document)).Perm ["é", "z", "z"] ∧
      (lines (render true document)).Pairwise (fun name next => bytes name ≤ bytes next) ∧
      bytes "z" < bytes "é" ∧
      render true document = render true ⟨document.loc, document.definitions.reverse⟩ := by
  have hok : Document.ofText "type é\x7b\x7d input z\x7b\x7d schema\x7b\x7d type z\x7b\x7d" =
      .ok ⟨⟨0, 0⟩, [.typeDef ⟨⟨0, 0⟩, "é", [], false⟩, .typeDef ⟨⟨0, 9⟩, "z", [], true⟩,
        .schema ⟨⟨0, 19⟩, []⟩, .typeDef ⟨⟨0, 28⟩, "z", [], false⟩]⟩ := by
    decide +kernel
  obtain ⟨hlines, hperm, hsorted, hbytes, hcanonical⟩ := listing_complete_and_canonical hok
  refine ⟨_, hok, hlines, hperm, hsorted, (hbytes _ _).mpr (by decide), hcanonical _ _ ?_⟩
  decide +kernel

end Listing

end SchemaGen
