import RecordText.Proofs.Extractor.Matching

namespace RecordText.Extractor

open Piece

def padding (pad : Text → Text) (ls : List Text) : Text := ls.flatMap fun l => pad l ++ l

variable {pad : Text → Text}

@[simp] theorem padding_nil : padding pad [] = [] := rfl

@[simp] theorem padding_cons (l : Text) (ls : List Text) :
    padding pad (l :: ls) = pad l ++ l ++ padding pad ls := rfl

theorem exists_matches_padding {pending : Option Text} {ps : List Piece}
    (hfirst : ∀ l ∈ ps.filterMap literal?, Text.FirstBehind l (pad l))
    (hsep : Separated (awaiting pending ps)) :
    ∃ spans, Matches pending ps (padding pad (ps.filterMap literal?)) spans ∧
      ∀ span ∈ spans, span.2 = [] ∨ ∃ l, span.2 = pad l := by
  induction ps generalizing pending with
  | nil =>
    cases pending with
    | none => exact ⟨[], .done, by simp⟩
    | some name => exact ⟨_, .last, by simp⟩
  | cons p ps ih =>
    cases p with
    | slot name =>
      cases pending with
      | none =>
        obtain ⟨spans, hmatch, hspans⟩ := @ih (some name) hfirst hsep
        exact ⟨spans, .slot hmatch, hspans⟩
      | some first => exact absurd hsep (not_separated_slot first name ps)
    | literal l =>
      obtain ⟨hl, hfirst⟩ := List.forall_mem_cons.1 hfirst
      cases pending with
      | none =>
        obtain ⟨spans, hmatch, hspans⟩ := @ih none hfirst hsep.tail
        exact ⟨spans, .skip hl hmatch, hspans⟩
      | some name =>
        obtain ⟨spans, hmatch, hspans⟩ := @ih none hfirst hsep.tail.tail
        exact ⟨_, .close hl hmatch, List.forall_mem_cons.2 ⟨.inr ⟨l, rfl⟩, hspans⟩⟩

theorem extract_padding_isOk {e : Extractor} (hpad : ∀ l, (pad l).normalize = [])
    (hfirst : ∀ l ∈ e.literals, Text.FirstBehind l (pad l)) (hsep : Separated e.pieces) :
    (e.extract (padding pad e.literals)).isOk := by
  obtain ⟨spans, hmatch, hspans⟩ := @exists_matches_padding pad none e.pieces hfirst hsep
  have hnormal : ∀ span ∈ spans, span.2.normalize = [] := by
    intro span hspan
    obtain hnil | ⟨l, hl⟩ := hspans span hspan
    · rw [hnil]
      rfl
    · rw [hl, hpad]
  have hagree (u v : Text) (hu : u.normalize = []) (hv : v.normalize = []) : u.agrees v := by
    simp [Text.agrees, hu, hv]
  obtain ⟨c, hc⟩ : ∃ c, Record.empty.captureAll? spans = some c :=
    Record.exists_captureAll? hagree (by simp) hnormal
  exact Extraction.isOk_iff.2 ⟨c, extract_eq_ok_iff.2 ⟨spans, hmatch, hc⟩⟩

end RecordText.Extractor
