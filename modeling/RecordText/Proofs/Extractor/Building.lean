import Mathlib.Data.List.Chain
import RecordText.Proofs.Extractor.Serialization

namespace RecordText

namespace Extractor

def add (e : Extractor) : Piece → Extractor
  | .literal s => e.addText s
  | .slot name => e.addSlot name

def build (m : Mode) (additions : List Piece) : Extractor := additions.foldl add (empty m)

theorem mode_foldl_add (e : Extractor) (ps : List Piece) : (ps.foldl add e).mode = e.mode := by
  induction ps generalizing e with
  | nil => rfl
  | cons p ps ih =>
    rw [List.foldl_cons, ih]
    cases p with
    | literal s => exact mode_addText e s
    | slot name => rfl

theorem pieces_add {p : Piece} (hp : p ≠ .literal []) (e : Extractor) :
    (e.add p).pieces = e.pieces ++ [p] := by
  cases p with
  | slot name => rfl
  | literal s =>
    cases s with
    | nil => contradiction
    | cons c s => rfl

theorem foldl_add_filter (e : Extractor) (ps : List Piece) :
    (ps.filter (· ≠ .literal [])).foldl add e = ps.foldl add e := by
  induction ps generalizing e with
  | nil => rfl
  | cons p ps ih =>
    by_cases hp : p = .literal []
    · subst hp
      exact ih e
    · rw [List.filter_cons_of_pos (by simpa using hp)]
      exact ih (e.add p)

theorem pieces_foldl_add (e : Extractor) (ps : List Piece) :
    (ps.foldl add e).pieces = e.pieces ++ ps.filter (· ≠ .literal []) := by
  induction ps generalizing e with
  | nil => simp
  | cons p ps ih =>
    by_cases hp : p = .literal []
    · subst hp
      exact ih e
    · rw [List.foldl_cons, ih, pieces_add hp, List.filter_cons_of_pos (by simpa using hp)]
      simp

theorem pieces_build (m : Mode) (additions : List Piece) :
    (build m additions).pieces = additions.filter (· ≠ .literal []) :=
  pieces_foldl_add (empty m) additions

theorem build_pieces (m : Mode) (additions : List Piece) :
    build m (build m additions).pieces = build m additions := by
  rw [pieces_build]
  exact foldl_add_filter (empty m) additions

end Extractor

namespace Piece

/-- Names that fit between percent signs, percent signs only in front of a literal, and one in front
of every literal that stands behind another. -/
structure Spellable (ps : List Piece) : Prop where
  slots : ∀ name ∈ ps.filterMap slot?, name ≠ [] ∧ '%' ∉ name
  literals : ∀ s ∈ ps.filterMap literal?, '%' ∉ s.tail
  neighbours : ps.IsChain fun p q => p.literal?.isSome → ∀ s ∈ q.literal?, s.head? = some '%'

theorem spellable_iff {ps : List Piece} : Spellable ps ↔
    (∀ name ∈ ps.filterMap slot?, name ≠ [] ∧ '%' ∉ name) ∧
      (∀ s ∈ ps.filterMap literal?, '%' ∉ s.tail) ∧
      ps.IsChain fun p q => p.literal?.isSome → ∀ s ∈ q.literal?, s.head? = some '%' :=
  ⟨fun h => ⟨h.slots, h.literals, h.neighbours⟩, fun h => ⟨h.1, h.2.1, h.2.2⟩⟩

instance : DecidablePred Spellable := fun _ => decidable_of_iff _ spellable_iff.symm

theorem eq_literal_of_mem {p : Piece} {s : Text} (h : s ∈ p.literal?) : p = literal s := by
  cases p with
  | literal t => exact congrArg literal (Option.some.inj h)
  | slot name => contradiction

namespace Spellable

theorem tail {p : Piece} {ps : List Piece} (h : Spellable (p :: ps)) : Spellable ps where
  slots name hname := h.slots name (((List.sublist_cons_self p ps).filterMap slot?).subset hname)
  literals s hs := h.literals s (((List.sublist_cons_self p ps).filterMap literal?).subset hs)
  neighbours := h.neighbours.tail

theorem head_print {s : Text} {ps : List Piece} (h : Spellable (literal s :: ps)) :
    ∀ c ∈ (ps.flatMap print).head?, c = '%' := by
  cases ps with
  | nil => simp
  | cons p ps =>
    cases p with
    | slot name => simp [print]
    | literal t =>
      have ht : t.head? = some '%' := (List.isChain_cons_cons.1 h.neighbours).1 rfl t rfl
      cases t with
      | nil => contradiction
      | cons c t => simp_all [print]

end Spellable

end Piece

namespace Extractor

open Piece

theorem spells_print {ps : List Piece} (h : Spellable ps) (hne : .literal [] ∉ ps) :
    Spells (ps.flatMap Piece.print) ps := by
  induction ps with
  | nil => exact .nil
  | cons p ps ih =>
    have hps := ih h.tail fun hmem => hne (List.mem_cons_of_mem p hmem)
    cases p with
    | slot name =>
      obtain ⟨hname, hpercent⟩ := h.slots name List.mem_cons_self
      simpa [Piece.print] using hps.slot hname hpercent
    | literal s =>
      have hs : '%' ∉ s.tail := h.literals s List.mem_cons_self
      cases s with
      | nil => exact absurd List.mem_cons_self hne
      | cons c s =>
        by_cases hc : c = '%'
        · subst hc
          have hprint : (literal ('%' :: s)).print = '%' :: '%' :: s :=
            congrArg ('%' :: '%' :: ·) (print_literal_of_notMem hs)
          rw [List.flatMap_cons, hprint]
          exact .percent hs h.head_print hps
        · have hcs : '%' ∉ c :: s := by simpa [Ne.symm hc] using hs
          rw [List.flatMap_cons, print_literal_of_notMem hcs]
          exact .text (by simp) hcs h.head_print hps

theorem Spells.spellable {p : Text} {ps : List Piece} (h : Spells p ps) : Spellable ps where
  slots := by
    induction h with
    | nil => simp
    | text _ _ _ _ ih => exact ih
    | percent _ _ _ ih => exact ih
    | slot hne hname _ ih => exact List.forall_mem_cons.2 ⟨⟨hne, hname⟩, ih⟩
  literals := h.percent_notMem_tail
  neighbours := by
    induction h with
    | nil => exact .nil
    | text _ _ hp h ih =>
      exact List.isChain_cons.2
        ⟨fun _ hq _ _ hl => h.head_literal hp (eq_literal_of_mem hl ▸ hq), ih⟩
    | percent _ hp h ih =>
      exact List.isChain_cons.2
        ⟨fun _ hq _ _ hl => h.head_literal hp (eq_literal_of_mem hl ▸ hq), ih⟩
    | slot _ _ _ ih => exact List.isChain_cons.2 ⟨by simp, ih⟩

theorem splitOn_percent (s : Text) : ('%' :: s).splitOn '%' = [] :: s.splitOn '%' := by
  simp [List.splitOn_cons_eq_if_modifyHead]

theorem addParts_cons (e : Extractor) (lead s : Text) (parts : List Text) :
    e.addParts lead (s :: parts) = (e.addText (lead ++ s)).addParts [] ([] :: parts) := by
  cases parts with
  | nil => simp [addParts]
  | cons name rest => cases rest <;> simp [addParts]

theorem addParts_cons_cons {rest : List Text} (h : rest ≠ []) (e : Extractor) (name : Text) :
    e.addParts [] ([] :: name :: rest) =
      if name.isEmpty then e.addParts ['%'] rest else (e.addSlot name).addParts [] rest := by
  rw [addParts]
  · rfl
  · exact h

theorem addParts_splitOn_append {s p : Text} (hs : '%' ∉ s) (hp : ∀ c ∈ p.head?, c = '%')
    (e : Extractor) (lead : Text) :
    e.addParts lead ((s ++ p).splitOn '%') =
      (e.addText (lead ++ s)).addParts [] (p.splitOn '%') := by
  cases p with
  | nil =>
    rw [List.append_nil, List.splitOn_eq_singleton hs]
    exact addParts_cons e lead s []
  | cons c p =>
    obtain rfl := hp c rfl
    rw [List.splitOn_append_cons_self_of_not_mem hs, splitOn_percent]
    exact addParts_cons e lead s _

theorem Spells.addParts_eq {p : Text} {ps : List Piece} (h : Spells p ps) (e : Extractor) :
    e.addParts [] (p.splitOn '%') = (ps.foldl add e, true) := by
  induction h generalizing e with
  | nil => rfl
  | text _ hs hp _ ih => exact (addParts_splitOn_append hs hp e []).trans (ih _)
  | percent hs hp _ ih =>
    rw [splitOn_percent, splitOn_percent, addParts_cons_cons (List.splitOn_ne_nil _ _)]
    exact (addParts_splitOn_append hs hp e ['%']).trans (ih _)
  | @slot name p ps hne hname _ ih =>
    rw [splitOn_percent, List.splitOn_append_cons_self_of_not_mem hname,
      addParts_cons_cons (List.splitOn_ne_nil _ _), if_neg (by simpa using hne)]
    exact ih _

theorem Spells.compile_eq {p : Text} {ps : List Piece} (h : Spells p ps) (m : Mode) :
    compile p m = (build m ps, none) := by
  rw [compile, h.addParts_eq]
  rfl

theorem recompile_build_iff (m : Mode) (additions : List Piece) :
    (build m additions).recompile = (build m additions, none) ↔
      Spellable (build m additions).pieces := by
  have hmode : (build m additions).mode = m := mode_foldl_add (empty m) additions
  constructor
  · intro h
    have hspells := spells_compile (congrArg Prod.snd h)
    have hpieces : (build m additions).recompile.1.pieces = (build m additions).pieces :=
      congrArg (·.1.pieces) h
    rw [← hpieces]
    exact hspells.spellable
  · intro h
    have hne : .literal [] ∉ (build m additions).pieces := by
      rw [pieces_build]
      simp
    rw [recompile, print, (spells_print h hne).compile_eq, hmode, build_pieces]

-- The signs of two slots that meet are no escaped percent sign, and two literals that meet are one.
theorem recompile_build_iff_literals :
    let e := build .path [.literal "x/".toList, .slot ['a'], .slot ['b'], .literal [], .literal "%/".toList]
    let e' := build .path [.literal ['/'], .literal ['a'], .slot ['b']]
    (Spellable e.pieces ∧ ¬ Spellable e'.pieces) ∧ e.literals = ["x/".toList, "%/".toList] ∧
      e.recompile = (e, none) ∧ e'.recompile ≠ (e', none) := by
  intro e e'
  have he : Spellable e.pieces := by decide
  have he' : ¬ Spellable e'.pieces := by decide
  exact ⟨⟨he, he'⟩, by decide, (recompile_build_iff _ _).2 he, mt (recompile_build_iff _ _).1 he'⟩

end Extractor

end RecordText
