import RecordText.Pattern.Evaluate
import RecordText.Proofs.Extractor.Compilation
import RecordText.Proofs.Pattern.Dependence
import RecordText.Proofs.Pattern.Reading

namespace RecordText

def Record.value (r : Record) (name : Text) : Text := (r.get? name).getD []

namespace Piece

def node : Piece → Node
  | literal s => .text s
  | slot name => .attribute name

def render (r : Record) : Piece → Text
  | literal s => s
  | slot name => r.value name

def atoms : Piece → List Piece
  | literal s => s.map fun c => literal [c]
  | slot name => [slot name]

theorem render_eq_flatMap_atoms (r : Record) (p : Piece) :
    p.render r = p.atoms.flatMap (render r) := by
  cases p with
  | literal s =>
    induction s with
    | nil => rfl
    | cons c s ih => exact congrArg (c :: ·) ih
  | slot name => simp [atoms]

theorem flatMap_render_eq_of_atoms {ps qs : List Piece} (r : Record)
    (h : ps.flatMap atoms = qs.flatMap atoms) :
    ps.flatMap (render r) = qs.flatMap (render r) := by
  have hrender : render r = fun p => p.atoms.flatMap (render r) :=
    funext (render_eq_flatMap_atoms r)
  rw [hrender, ← List.flatMap_assoc, h, List.flatMap_assoc]

theorem filterMap_slot?_flatMap_atoms (ps : List Piece) :
    (ps.flatMap atoms).filterMap slot? = ps.filterMap slot? := by
  rw [List.filterMap_flatMap]
  induction ps with
  | nil => rfl
  | cons p ps ih =>
    rw [List.flatMap_cons, ih]
    cases p with
    | literal s =>
      have hnone : (literal s).atoms.filterMap slot? = [] := List.filterMap_eq_nil_iff.2 (by simp [atoms])
      rw [hnone]
      rfl
    | slot name => rfl

theorem attributeNames_map_node (ps : List Piece) :
    (Node.list (ps.map node)).attributeNames = ps.filterMap slot? := by
  rw [Node.attributeNames]
  induction ps with
  | nil => rfl
  | cons p ps ih =>
    rw [List.map_cons, Node.attributeNamesOfAll, ih]
    cases p with
    | literal s => rfl
    | slot name => rfl

theorem evaluateAll_map_node (l : Library) (r : Record) (ps : List Piece) :
    Node.evaluateAll l r (ps.map node) = .ok (ps.map (render r)) := by
  induction ps with
  | nil => simp [Node.evaluateAll]
  | cons p ps ih => cases p <;> simp [Node.evaluateAll, Node.evaluate, node, ih] <;> rfl

theorem evaluate_map_node (l : Library) (r : Record) (ps : List Piece) :
    (Node.list (ps.map node)).evaluate l r = .ok (ps.flatMap (render r)) := by
  rw [Node.evaluate, evaluateAll_map_node]
  rfl

end Piece

namespace Extractor

def atoms (e : Extractor) : List Piece := e.pieces.flatMap Piece.atoms

theorem exists_reads_append {levels : Nat} {s p : Text} (ps : List Piece) (hpercent : '%' ∉ s)
    (hdollar : '$' ∉ s) (hp : ∀ c ∈ p.head?, c = '%')
    (h : Node.Reads levels p (ps.map Piece.node)) :
    ∃ qs : List Piece, Node.Reads levels (s ++ p) (qs.map Piece.node) ∧
      qs.flatMap Piece.atoms = (Piece.literal s).atoms ++ ps.flatMap Piece.atoms := by
  cases s with
  | nil => exact ⟨ps, h, rfl⟩
  | cons c s =>
    have hplain : ∀ d ∈ c :: s, isPlain d := by grind [isPlain]
    have hend : ∀ d ∈ p.head?, ¬ isPlain d := by grind [isPlain]
    exact ⟨.literal (c :: s) :: ps, .text (by simp) hplain hend h, rfl⟩

theorem Spells.exists_reads {p : Text} {ps : List Piece} (h : Spells p ps) (hdollar : '$' ∉ p)
    (levels : Nat) :
    ∃ qs : List Piece, Node.Reads levels p (qs.map Piece.node) ∧
      ps.flatMap Piece.atoms = qs.flatMap Piece.atoms := by
  induction h with
  | nil => exact ⟨[], .nil, rfl⟩
  | text _ hs hp _ ih =>
    obtain ⟨qs, hreads, hqs⟩ := ih (by simp_all)
    obtain ⟨rs, hreads, hrs⟩ := exists_reads_append qs hs (by simp_all) hp hreads
    exact ⟨rs, hreads, by rw [hrs, List.flatMap_cons, hqs]⟩
  | percent hs hp _ ih =>
    obtain ⟨qs, hreads, hqs⟩ := ih (by simp_all)
    obtain ⟨rs, hreads, hrs⟩ := exists_reads_append qs hs (by simp_all) hp hreads
    exact ⟨.literal ['%'] :: rs, .percent hreads, by simp [hrs, hqs, Piece.atoms]⟩
  | @slot name _ _ hne hname _ ih =>
    obtain ⟨qs, hreads, hqs⟩ := ih (by simp_all)
    exact ⟨.slot name :: qs, .attr hne hname hreads, by simp [hqs]⟩

theorem exists_parse_of_compile {p : Text} {m : Mode} (hdollar : '$' ∉ p)
    (hclosed : (compile p m).2 = none) :
    ∃ ps : List Piece, Node.parse p = .ok (.list (ps.map Piece.node)) ∧
      (compile p m).1.atoms = ps.flatMap Piece.atoms := by
  obtain ⟨ps, h, hps⟩ := (spells_compile hclosed).exists_reads hdollar maxNesting
  exact ⟨ps, Node.parse_eq_ok_iff.2 ⟨_, rfl, h⟩, hps⟩

end Extractor

end RecordText
