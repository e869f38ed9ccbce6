import Mathlib.Algebra.Ring.Parity
import RecordText.Extractor.Parser

namespace RecordText.Extractor

theorem mem_of_mem_splitOn {s t : Text} {a c : Char} (h : t ∈ s.splitOn a) (hc : c ∈ t) :
    c ∈ s ∧ c ≠ a := by
  induction s generalizing t with
  | nil => simp_all
  | cons d s ih =>
    rw [List.splitOn_cons_eq_if_modifyHead] at h
    cases hs : s.splitOn a with
    | nil => exact absurd hs (List.splitOn_ne_nil a s)
    | cons u us => grind [List.modifyHead_cons]

/-- `Spells p ps`: the pattern `p`, in which every slot is closed, spells the pieces `ps`. -/
inductive Spells : Text → List Piece → Prop
  | nil : Spells [] []
  | text {s p ps} : s ≠ [] → '%' ∉ s → (∀ c ∈ p.head?, c = '%') → Spells p ps →
      Spells (s ++ p) (.literal s :: ps)
  | percent {s p ps} : '%' ∉ s → (∀ c ∈ p.head?, c = '%') → Spells p ps →
      Spells ('%' :: '%' :: (s ++ p)) (.literal ('%' :: s) :: ps)
  | slot {name p ps} : name ≠ [] → '%' ∉ name → Spells p ps →
      Spells ('%' :: (name ++ '%' :: p)) (.slot name :: ps)

theorem Spells.literal_nil_notMem {p : Text} {ps : List Piece} (h : Spells p ps) :
    .literal [] ∉ ps := by
  induction h with
  | nil => simp
  | text hne _ _ _ ih => simp [Ne.symm hne, ih]
  | percent _ _ _ ih => simp [ih]
  | slot _ _ _ ih => simp [ih]

theorem Spells.percent_notMem_tail {p : Text} {ps : List Piece} (h : Spells p ps) :
    ∀ l ∈ ps.filterMap Piece.literal?, '%' ∉ l.tail := by
  induction h with
  | nil => simp
  | text _ hs _ _ ih => exact List.forall_mem_cons.2 ⟨fun h => hs (List.mem_of_mem_tail h), ih⟩
  | percent hs _ _ ih => exact List.forall_mem_cons.2 ⟨hs, ih⟩
  | slot _ _ _ ih => exact ih

theorem Spells.head_literal {p l : Text} {ps : List Piece} (h : Spells p ps)
    (hp : ∀ c ∈ p.head?, c = '%') (hl : ps.head? = some (.literal l)) : l.head? = some '%' := by
  cases h with
  | nil => simp at hl
  | text hne hs _ _ =>
    cases hl
    cases l with
    | nil => contradiction
    | cons c l => exact absurd (hp c rfl) (by simp_all)
  | percent _ _ _ =>
    cases hl
    rfl
  | slot _ _ _ => simp at hl

-- What a literal begins with is either nothing or a percent sign, which the pattern doubles.
theorem exists_spells_literal {lead s p : Text} {ps : List Piece} (hlead : lead = [] ∨ lead = ['%'])
    (hs : '%' ∉ s) (hp : ∀ c ∈ p.head?, c = '%') (h : Spells p ps) (e : Extractor) :
    ∃ qs, (e.addText (lead ++ s)).pieces ++ ps = e.pieces ++ qs ∧
      Spells (lead ++ lead ++ s ++ p) qs := by
  cases hlead with
  | inl hlead =>
    subst hlead
    cases s with
    | nil => exact ⟨ps, rfl, h⟩
    | cons c s => exact ⟨_, by simp, .text (by simp) hs hp h⟩
  | inr hlead =>
    subst hlead
    exact ⟨_, by simp, .percent hs hp h⟩

theorem intercalate_percent {s name : Text} {rest : List Text} (h : rest ≠ []) :
    ['%'].intercalate (s :: name :: rest) =
      s ++ '%' :: (name ++ '%' :: ['%'].intercalate rest) := by
  rw [List.intercalate_cons_cons, List.intercalate_cons_of_ne_nil h]
  simp

theorem exists_spells_addParts {e : Extractor} {lead : Text} {parts : List Text} (hne : parts ≠ [])
    (hlead : lead = [] ∨ lead = ['%']) (hparts : ∀ s ∈ parts, '%' ∉ s)
    (hclosed : (e.addParts lead parts).2) :
    ∃ ps, (e.addParts lead parts).1.pieces = e.pieces ++ ps ∧
      Spells (lead ++ lead ++ ['%'].intercalate parts) ps := by
  fun_induction addParts e lead parts with
  | case1 => contradiction
  | case2 e lead s =>
    have h := exists_spells_literal hlead (hparts s (by simp)) (by simp) .nil e
    simpa using h
  | case3 => contradiction
  | case4 e lead s name rest hrest hname ih =>
    obtain rfl := List.isEmpty_iff.1 hname
    obtain ⟨ps, hps, h⟩ := ih hrest (.inr rfl) (fun t ht => hparts t (by simp [ht])) hclosed
    obtain ⟨qs, hqs, h⟩ := exists_spells_literal hlead (hparts s (by simp)) (by simp) h e
    refine ⟨qs, hps.trans hqs, ?_⟩
    rw [intercalate_percent hrest]
    simpa using h
  | case5 e lead s name rest hrest hname ih =>
    obtain ⟨ps, hps, h⟩ := ih hrest (.inl rfl) (fun t ht => hparts t (by simp [ht])) hclosed
    have hslot := Spells.slot (by simpa using hname) (hparts name (by simp)) h
    obtain ⟨qs, hqs, h⟩ := exists_spells_literal hlead (hparts s (by simp)) (by simp) hslot e
    refine ⟨qs, ?_, ?_⟩
    · rw [hps, ← hqs]
      simp [addSlot]
    · rw [intercalate_percent hrest]
      simpa using h

theorem spells_compile {p : Text} {m : Mode} (h : (compile p m).2 = none) :
    Spells p (compile p m).1.pieces := by
  have hclosed : ((empty m).addParts [] (p.splitOn '%')).2 := by simpa [compile] using h
  have hparts : ∀ s ∈ p.splitOn '%', '%' ∉ s :=
    fun s hs hmem => (mem_of_mem_splitOn hs hmem).2 rfl
  obtain ⟨ps, hps, hspells⟩ :=
    exists_spells_addParts (List.splitOn_ne_nil '%' p) (.inl rfl) hparts hclosed
  rw [List.intercalate_splitOn] at hspells
  have hpieces : (compile p m).1.pieces = ps := hps
  rwa [hpieces]

theorem length_splitOn (s : Text) (c : Char) : (s.splitOn c).length = s.count c + 1 := by
  induction s with
  | nil => rfl
  | cons d s ih => grind [List.splitOn_cons_eq_if_modifyHead]

-- Literals and slots take turns, and a literal is last if no slot is left open.
theorem addParts_closed_iff {e : Extractor} {lead : Text} {parts : List Text} (hne : parts ≠ []) :
    (e.addParts lead parts).2 ↔ Odd parts.length := by
  fun_induction addParts e lead parts with
  | case1 => contradiction
  | case2 => simp
  | case3 => simp
  | case4 _ _ _ _ _ hrest _ ih => simpa [Nat.odd_add_one] using ih hrest
  | case5 _ _ _ _ _ hrest _ ih => simpa [Nat.odd_add_one] using ih hrest

theorem compile_error (p : Text) (m : Mode) :
    (compile p m).2 = if Even (p.count '%') then none else some (.mk p) := by
  have hclosed := @addParts_closed_iff (empty m) [] _ (List.splitOn_ne_nil '%' p)
  rw [length_splitOn, Nat.odd_add_one, Nat.not_odd_iff_even] at hclosed
  simp only [compile, hclosed]

theorem exists_eq_append_percent {p : Text} (h : '%' ∈ p) : ∃ q r, p = q ++ '%' :: r ∧ '%' ∉ r := by
  obtain ⟨r, q, hp, hr⟩ := List.eq_append_cons_of_mem (List.mem_reverse.2 h)
  exact ⟨q.reverse, r.reverse, by simpa using congrArg List.reverse hp, by simpa using hr⟩

theorem percent_mem_of_odd {p : Text} (h : Odd (p.count '%')) : '%' ∈ p := by
  apply List.count_pos_iff.1
  exact Nat.pos_of_ne_zero fun hzero => by simp [hzero] at h

theorem odd_count_append_percent_iff {q r : Text} (hr : '%' ∉ r) :
    Odd ((q ++ '%' :: r).count '%') ↔ Even (q.count '%') := by
  simp [List.count_eq_zero_of_not_mem hr, Nat.odd_add_one]

end RecordText.Extractor
