import RecordText.Proofs.Extractor.Compilation
import RecordText.Proofs.Extractor.Reproduction

namespace RecordText

def Piece.runs : List Piece → List Text
  | [] => [[]]
  | literal s :: ps => (runs ps).modifyHead (s ++ ·)
  | slot _ :: ps => [] :: runs ps

namespace Extractor

open Piece

/-- `Runs p rs`: `rs` is the literal text between the slots of the pattern `p`, where two percent
signs are one. -/
inductive Runs : Text → List Text → Prop
  | nil : Runs [] [[]]
  | plain {c p run rs} : c ≠ '%' → Runs p (run :: rs) → Runs (c :: p) ((c :: run) :: rs)
  | percent {p run rs} : Runs p (run :: rs) → Runs ('%' :: '%' :: p) (('%' :: run) :: rs)
  | slot {name p rs} : name ≠ [] → '%' ∉ name → Runs p rs →
      Runs ('%' :: (name ++ '%' :: p)) ([] :: rs)

theorem Runs.plain_append {s p run : Text} {rs : List Text} (hs : '%' ∉ s)
    (h : Runs p (run :: rs)) : Runs (s ++ p) ((s ++ run) :: rs) := by
  induction s with
  | nil => exact h
  | cons c s ih =>
    simp only [List.mem_cons, not_or] at hs
    exact .plain (Ne.symm hs.1) (ih hs.2)

theorem append_percent_inj {s t p q : Text} (hs : '%' ∉ s) (ht : '%' ∉ t)
    (h : s ++ '%' :: p = t ++ '%' :: q) : s = t ∧ p = q := by
  have htake : ∀ u r : Text, '%' ∉ u → (u ++ '%' :: r).takeWhile (· != '%') = u := by
    intro u r hu
    rw [List.takeWhile_append_of_pos (by grind)]
    simp
  obtain rfl : s = t := by rw [← htake s p hs, h, htake t q ht]
  simpa using h

theorem Runs.unique {p : Text} {rs rs' : List Text} (h : Runs p rs) (h' : Runs p rs') :
    rs = rs' := by
  induction h generalizing rs' with
  | nil =>
    cases h'
    rfl
  | plain hc _ ih =>
    cases h' with
    | plain _ h' =>
      cases ih h'
      rfl
    | _ => contradiction
  | @percent p _ _ _ ih =>
    generalize heq : '%' :: '%' :: p = s at h'
    cases h' with
    | nil => contradiction
    | plain hc _ => exact absurd (List.cons.inj heq).1.symm hc
    | percent h' =>
      cases heq
      cases ih h'
      rfl
    | slot hne hname _ =>
      have hinj := append_percent_inj List.not_mem_nil hname (List.cons.inj heq).2
      exact absurd hinj.1.symm hne
  | @slot name p _ hne hname _ ih =>
    generalize heq : '%' :: (name ++ '%' :: p) = s at h'
    cases h' with
    | nil => contradiction
    | plain hc _ => exact absurd (List.cons.inj heq).1.symm hc
    | percent _ =>
      have hinj := append_percent_inj hname List.not_mem_nil (List.cons.inj heq).2
      exact absurd hinj.1 hne
    | slot _ hname' h' =>
      obtain ⟨-, rfl⟩ := append_percent_inj hname hname' (List.cons.inj heq).2
      rw [ih h']

theorem exists_runs_eq_cons (ps : List Piece) : ∃ run rs, runs ps = run :: rs := by
  induction ps with
  | nil => exact ⟨[], [], rfl⟩
  | cons p ps ih =>
    obtain ⟨run, rs, hruns⟩ := ih
    cases p with
    | literal s => exact ⟨s ++ run, rs, by rw [runs, hruns]; rfl⟩
    | slot name => exact ⟨[], runs ps, rfl⟩

theorem Spells.runs {p : Text} {ps : List Piece} (h : Spells p ps) : Runs p (runs ps) := by
  induction h with
  | nil => exact .nil
  | @text s _ ps _ hs _ _ ih =>
    obtain ⟨run, rs, hruns⟩ := exists_runs_eq_cons ps
    rw [hruns] at ih
    rw [Piece.runs, hruns]
    exact ih.plain_append hs
  | @percent s _ ps hs _ _ ih =>
    obtain ⟨run, rs, hruns⟩ := exists_runs_eq_cons ps
    rw [hruns] at ih
    rw [Piece.runs, hruns]
    exact (ih.plain_append hs).percent
  | slot hne hname _ ih => exact .slot hne hname ih

theorem exists_runs_eq_nil_cons {ps : List Piece} (h : ∀ p ∈ ps.head?, p.literal? = none) :
    ∃ rs, runs ps = [] :: rs := by
  cases ps with
  | nil => exact ⟨[], rfl⟩
  | cons p ps =>
    cases p with
    | literal s => exact absurd (h _ rfl) (by simp [literal?])
    | slot name => exact ⟨runs ps, rfl⟩

theorem mem_literals_of_mem_runs {ps : List Piece} {l : Text} (hund : Undivided ps)
    (hl : l ∈ runs ps) : l = [] ∨ l ∈ ps.filterMap literal? := by
  induction ps generalizing l with
  | nil => exact .inl (by simpa [runs] using hl)
  | cons p ps ih =>
    cases p with
    | slot name =>
      cases List.mem_cons.1 hl with
      | inl hl => exact .inl hl
      | inr hl => exact ih hund.tail hl
    | literal s =>
      obtain ⟨rs, hruns⟩ := exists_runs_eq_nil_cons hund.head
      simp only [runs, hruns, List.modifyHead_cons, List.append_nil, List.mem_cons] at hl
      cases hl with
      | inl hl => exact .inr (hl ▸ List.mem_cons_self)
      | inr hl =>
        have hmem : l ∈ runs ps := hruns ▸ List.mem_cons_of_mem [] hl
        cases ih hund.tail hmem with
        | inl hnil => exact .inl hnil
        | inr hmem => exact .inr (List.mem_cons_of_mem s hmem)

-- A percent sign begins the literal that stands behind another, and comes to stand inside their
-- run.
theorem undivided_cons {p s : Text} {ps : List Piece} (hs : s ≠ []) (hp : ∀ c ∈ p.head?, c = '%')
    (h : Spells p ps) (ih : (∀ l ∈ runs ps, '%' ∉ l.tail) → Undivided ps)
    (hruns : ∀ l ∈ runs (.literal s :: ps), '%' ∉ l.tail) : Undivided (.literal s :: ps) := by
  obtain ⟨run, rs, hrun⟩ := exists_runs_eq_cons ps
  rw [runs, hrun, List.modifyHead_cons] at hruns
  obtain ⟨hhead, hrest⟩ := List.forall_mem_cons.1 hruns
  have hpercent : '%' ∉ run := by
    intro hmem
    apply hhead
    rw [List.tail_append_of_ne_nil hs]
    exact List.mem_append_right s.tail hmem
  refine List.isChain_cons.2 ⟨?_, ih ?_⟩
  · intro q hq
    cases ps with
    | nil => contradiction
    | cons _ ps =>
      cases hq
      cases q with
      | slot name => exact .inr rfl
      | literal l =>
        obtain ⟨run', rs', hrun'⟩ := exists_runs_eq_cons ps
        simp only [runs, hrun', List.modifyHead_cons, List.cons.injEq] at hrun
        rw [← hrun.1] at hpercent
        have hl : '%' ∈ l := List.mem_of_mem_head? (h.head_literal hp rfl)
        exact absurd (List.mem_append_left run' hl) hpercent
  · rw [hrun]
    exact List.forall_mem_cons.2 ⟨fun hmem => hpercent (List.mem_of_mem_tail hmem), hrest⟩

theorem Spells.undivided {p : Text} {ps : List Piece} (h : Spells p ps)
    (hruns : ∀ l ∈ Piece.runs ps, '%' ∉ l.tail) : Undivided ps := by
  induction h with
  | nil => exact .nil
  | text hne _ hp h ih => exact undivided_cons hne hp h ih hruns
  | percent _ hp h ih => exact undivided_cons (by simp) hp h ih hruns
  | slot _ _ _ ih =>
    exact List.isChain_cons.2 ⟨by simp, ih fun l hl => hruns l (List.mem_cons_of_mem [] hl)⟩

end Extractor

end RecordText
