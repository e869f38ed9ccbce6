import RecordText.Proofs.Extractor.Display
import RecordText.Proofs.Pattern.Concatenation

namespace RecordText

namespace Piece

def pushLiteral (s : Text) : List Piece → List Piece
  | literal t :: ps => literal (s ++ t) :: ps
  | ps => literal s :: ps

def mergeLiterals : List Piece → List Piece
  | [] => []
  | literal s :: ps => pushLiteral s (mergeLiterals ps)
  | slot name :: ps => slot name :: mergeLiterals ps

theorem pushLiteral_pushLiteral (s t : Text) (ps : List Piece) :
    pushLiteral s (pushLiteral t ps) = pushLiteral (s ++ t) ps := by
  fun_cases pushLiteral t ps with
  | case1 => simp [pushLiteral]
  | case2 => simp [pushLiteral]

theorem mergeLiterals_atoms_append {s : Text} (hne : s ≠ []) (ps : List Piece) :
    mergeLiterals ((literal s).atoms ++ ps) = pushLiteral s (mergeLiterals ps) := by
  induction s with
  | nil => contradiction
  | cons c s ih =>
    cases s with
    | nil => rfl
    | cons d s =>
      calc
        mergeLiterals ((literal (c :: d :: s)).atoms ++ ps) =
            pushLiteral [c] (mergeLiterals ((literal (d :: s)).atoms ++ ps)) := rfl
        _ = pushLiteral [c] (pushLiteral (d :: s) (mergeLiterals ps)) := by rw [ih (by simp)]
        _ = pushLiteral (c :: d :: s) (mergeLiterals ps) := pushLiteral_pushLiteral ..

theorem mergeLiterals_flatMap_atoms {ps : List Piece} (h : literal [] ∉ ps) :
    mergeLiterals (ps.flatMap atoms) = mergeLiterals ps := by
  induction ps with
  | nil => rfl
  | cons p ps ih =>
    simp only [List.mem_cons, not_or] at h
    rw [List.flatMap_cons]
    cases p with
    | literal s =>
      have hne : s ≠ [] := fun hs => h.1 (by rw [hs])
      rw [mergeLiterals_atoms_append hne, ih h.2, mergeLiterals]
    | slot name => exact congrArg (slot name :: ·) (ih h.2)

end Piece

theorem Node.Reads.text_nil_notMem {levels : Nat} {s : Text} {nodes : List Node}
    (h : Reads levels s nodes) : .text [] ∉ nodes := by
  induction h with
  | nil => simp
  | percent _ ih => simp [ih]
  | attr _ _ _ ih => simp [ih]
  | text hne _ _ _ ih => simp [Ne.symm hne, ih]
  | call _ _ _ _ _ ih => simp [ih]

theorem Node.parse_unclosed {s : Text} (h : '%' ∉ s) :
    parse ('%' :: s) = .error .unclosedAttribute := by
  rw [parse, parseWithin_eq, parseNodes_unclosed h]
  rfl

namespace Extractor

open Piece

-- The text in front of the last percent sign is read, and what follows opens an attribute.
theorem parse_of_odd {p : Text} (hdollar : '$' ∉ p) (hodd : Odd (p.count '%')) :
    Node.parse p = .error .unclosedAttribute := by
  obtain ⟨q, r, rfl, hr⟩ := exists_eq_append_percent (percent_mem_of_odd hodd)
  have heven : Even (q.count '%') := (odd_count_append_percent_iff hr).1 hodd
  have hclosed : (compile q .text).2 = none := (compile_error q .text).trans (if_pos heven)
  obtain ⟨ps, hq, -⟩ := exists_parse_of_compile (by simp_all) hclosed
  exact Node.parse_append_error hq (Node.parse_unclosed hr)

/-- A pattern without calls is refused as a display pattern and as an extraction pattern if it has an
odd number of percent signs. Otherwise it is read as the same pieces both ways, once neighbouring
literals are one. -/
theorem mergeLiterals_parse_compile {p : Text} (m : Mode) (hdollar : '$' ∉ p) :
    (Odd (p.count '%') →
        Node.parse p = .error .unclosedAttribute ∧ (compile p m).2 = some (.mk p)) ∧
      (Even (p.count '%') → (compile p m).2 = none ∧
        ∃ ps : List Piece, Node.parse p = .ok (.list (ps.map Piece.node)) ∧
          mergeLiterals ps = mergeLiterals (compile p m).1.pieces) := by
  rw [compile_error]
  constructor
  · intro hodd
    exact ⟨parse_of_odd hdollar hodd, if_neg (Nat.not_even_iff_odd.2 hodd)⟩
  · intro heven
    have hclosed : (compile p m).2 = none := (compile_error p m).trans (if_pos heven)
    obtain ⟨ps, hparse, hps⟩ := exists_parse_of_compile hdollar hclosed
    refine ⟨if_pos heven, ps, hparse, ?_⟩
    have hne : literal [] ∉ ps := by
      obtain ⟨_, heq, hreads⟩ := Node.parse_eq_ok_iff.1 hparse
      cases heq
      exact fun hmem => hreads.text_nil_notMem (List.mem_map_of_mem hmem)
    rw [← mergeLiterals_flatMap_atoms hne, ← hps]
    exact mergeLiterals_flatMap_atoms (spells_compile hclosed).literal_nil_notMem

theorem mergeLiterals_parse_compile_escapes :
    ('$' ∉ "a%%b%%%c%".toList ∧ Even ("a%%b%%%c%".toList.count '%') ∧
        '$' ∉ "%%a%".toList ∧ Odd ("%%a%".toList.count '%')) ∧
      (∃ ps : List Piece, Node.parse "a%%b%%%c%".toList = .ok (.list (ps.map Piece.node)) ∧
          mergeLiterals ps = [.literal "a%b%".toList, .slot ['c']]) ∧
        Node.parse "%%a%".toList = .error .unclosedAttribute ∧
          (compile "%%a%".toList .path).2 = some (.mk "%%a%".toList) := by
  have heven : Even ("a%%b%%%c%".toList.count '%') := by decide
  have hodd : Odd ("%%a%".toList.count '%') := by decide
  obtain ⟨-, ps, hparse, hps⟩ := (mergeLiterals_parse_compile .text (by decide)).2 heven
  have hpieces : mergeLiterals (compile "a%%b%%%c%".toList .text).1.pieces =
      [.literal "a%b%".toList, .slot ['c']] := by
    decide
  exact ⟨⟨by decide, heven, by decide, hodd⟩, ⟨ps, hparse, hps.trans hpieces⟩,
    (mergeLiterals_parse_compile .path (by decide)).1 hodd⟩

end Extractor

end RecordText
