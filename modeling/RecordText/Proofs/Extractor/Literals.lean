import RecordText.Proofs.Extractor.Padding
import RecordText.Proofs.Extractor.Runs
import RecordText.Proofs.Extractor.Success

/-!
Whether the texts from which a pattern extracts contain its runs of literal text as they are. They
do as long as no run is divided: the literals of a divided run are looked for one behind the other,
and other text may come between them.
-/

namespace RecordText.Extractor

open Piece

def percentPad (c : Char) (l : Text) : Text := if l.head? = some '%' then [c] else []

def padded (c : Char) : List Piece → Text
  | [] => []
  | .literal l :: ps => percentPad c l ++ l ++ padded c ps
  | .slot _ :: ps => padded c ps

theorem firstBehind_percentPad {c : Char} (hc : c ≠ '%') (l : Text) : Text.FirstBehind l (percentPad c l) := by
  rw [percentPad]
  split
  · next hl => exact Text.firstBehind_singleton hl hc
  · exact Text.firstBehind_nil l

theorem padded_eq_padding (c : Char) (ps : List Piece) :
    padded c ps = padding (percentPad c) (ps.filterMap literal?) := by
  induction ps with
  | nil => rfl
  | cons p ps ih =>
    cases p with
    | literal l => exact congrArg (percentPad c l ++ l ++ ·) ih
    | slot name => exact ih

def PercentsBehind (c : Char) (s : Text) : Prop := s.IsChain fun a b => b = '%' → a = c

theorem percentsBehind_of_notMem_tail (c : Char) {s : Text} (h : '%' ∉ s.tail) :
    PercentsBehind c s := by
  cases s with
  | nil => exact .nil
  | cons a s =>
    induction s generalizing a with
    | nil => exact .singleton a
    | cons b s ih =>
      have hb : b ≠ '%' := fun heq => h (by simp [heq])
      have hs : '%' ∉ s := fun hmem => h (List.mem_cons_of_mem b hmem)
      exact List.isChain_cons_cons.2 ⟨fun heq => absurd heq hb, ih b hs⟩

theorem notMem_tail_of_percentsBehind {c d : Char} {s : Text} (hne : c ≠ d)
    (hc : PercentsBehind c s) (hd : PercentsBehind d s) : '%' ∉ s.tail := by
  cases s with
  | nil => exact List.not_mem_nil
  | cons a s =>
    induction s generalizing a with
    | nil => exact List.not_mem_nil
    | cons b s ih =>
      obtain ⟨hab, hc⟩ := List.isChain_cons_cons.1 hc
      obtain ⟨hab', hd⟩ := List.isChain_cons_cons.1 hd
      intro hmem
      cases List.mem_cons.1 hmem with
      | inl heq => exact hne ((hab heq.symm).symm.trans (hab' heq.symm))
      | inr hmem => exact ih b hc hd hmem

theorem percentsBehind_percentPad_append {c : Char} (hc : c ≠ '%') {l s : Text} (hl : '%' ∉ l.tail)
    (hs : PercentsBehind c s) (hhead : ∀ d ∈ s.head?, d ≠ '%') :
    PercentsBehind c (percentPad c l ++ l ++ s) ∧ ∀ d ∈ (percentPad c l ++ l ++ s).head?, d ≠ '%' := by
  have happend : PercentsBehind c (l ++ s) := by
    refine List.isChain_append.2 ⟨percentsBehind_of_notMem_tail c hl, hs, ?_⟩
    intro a _ d hd heq
    exact absurd heq (hhead d hd)
  rw [List.append_assoc, percentPad]
  split
  · exact ⟨List.isChain_cons.2 ⟨fun _ _ _ => rfl, happend⟩, by simpa using hc⟩
  · next hpercent =>
    refine ⟨happend, ?_⟩
    cases l with
    | nil => exact hhead
    | cons d l => simpa using hpercent

theorem percentsBehind_padded {c : Char} (hc : c ≠ '%') {ps : List Piece}
    (hps : ∀ l ∈ ps.filterMap literal?, '%' ∉ l.tail) :
    PercentsBehind c (padded c ps) ∧ ∀ d ∈ (padded c ps).head?, d ≠ '%' := by
  induction ps with
  | nil => exact ⟨.nil, by simp [padded]⟩
  | cons p ps ih =>
    cases p with
    | slot name => exact ih hps
    | literal l =>
      obtain ⟨hl, hps⟩ := List.forall_mem_cons.1 hps
      exact percentsBehind_percentPad_append hc hl (ih hps).1 (ih hps).2

-- Captures are compared without underscores and leading zeros, so that a slot in front of one literal
-- agrees with the same slot in front of another, where there is nothing to put between.
theorem extract_padded_isOk {c : Char} (hc : c = '_' ∨ c = '0') {e : Extractor}
    (hsep : Separated e.pieces) : (e.extract (padded c e.pieces)).isOk := by
  have hpercent : c ≠ '%' := by
    rintro rfl
    simp at hc
  rw [padded_eq_padding]
  apply extract_padding_isOk _ (fun l _ => firstBehind_percentPad hpercent l) hsep
  intro l
  rw [percentPad]
  obtain rfl | rfl := hc
  · split <;> decide
  · split <;> decide

/-- The texts from which a pattern extracts contain its literal texts exactly if it has none that a
percent sign divides; with slots that nothing separates there are no such texts. -/
theorem runs_infix_iff {p : Text} {rs : List Text} {m : Mode} (hclosed : (compile p m).2 = none)
    (hrs : Runs p rs) :
    (∀ s, ((compile p m).1.extract s).isOk → ∀ l ∈ rs, l <:+: s) ↔
      (Separated (compile p m).1.pieces → Undivided (compile p m).1.pieces) := by
  have hspells := spells_compile hclosed
  obtain rfl := hrs.unique hspells.runs
  constructor
  · intro h hsep
    -- A run that stands in both padded texts has no percent sign inside: it would stand behind an
    -- underscore in the one and behind a zero in the other.
    apply hspells.undivided
    intro l hl
    have hbehind (c : Char) (hc : c = '_' ∨ c = '0') (hne : c ≠ '%') : PercentsBehind c l := by
      have hpadded := percentsBehind_padded hne hspells.percent_notMem_tail
      exact List.IsChain.infix hpadded.1 (h _ (extract_padded_isOk hc hsep) l hl)
    exact notMem_tail_of_percentsBehind (by decide) (hbehind '_' (.inl rfl) (by decide))
      (hbehind '0' (.inr rfl) (by decide))
  · intro hund s hok l hl
    obtain ⟨hsep, rest, hplaces⟩ := extract_isOk hok
    cases mem_literals_of_mem_runs (hund hsep) hl with
    | inl hnil =>
      rw [hnil]
      exact List.nil_infix
    | inr hmem => exact hplaces.isInfix_of_mem hmem

theorem runs_infix_iff_escape_behind_slot :
    let p := "%x%%% of %y%".toList
    ((compile p .text).2 = none ∧ Runs p [[], "% of ".toList, []]) ∧
      ∀ s, ((compile p .text).1.extract s).isOk → ∀ l ∈ [[], "% of ".toList, []], l <:+: s := by
  intro p
  have hclosed : (compile p .text).2 = none := by decide
  have hruns : Runs p [[], "% of ".toList, []] := by
    refine @Runs.slot ['x'] _ _ (by decide) (by decide) (.percent ?_)
    refine @Runs.plain_append " of ".toList _ _ _ (by decide) ?_
    exact @Runs.slot ['y'] _ _ (by decide) (by decide) .nil
  exact ⟨⟨hclosed, hruns⟩, (runs_infix_iff hclosed hruns).2 fun _ => by decide⟩

/-- The text between the parts of a divided literal is passed over. -/
theorem not_forall_runs_infix :
    ¬ ∀ (p s : Text) (rs : List Text) (m : Mode), (compile p m).2 = none → Runs p rs →
      ((compile p m).1.extract s).isOk → ∀ l ∈ rs, l <:+: s := by
  intro h
  have hruns : Runs "a%%b".toList ["a%b".toList] :=
    .plain (by decide) (.percent (.plain (by decide) .nil))
  have hinfix := h "a%%b".toList "aX%b".toList _ .text (by decide) hruns (by decide) _
    List.mem_cons_self
  exact absurd hinfix (by decide)

end RecordText.Extractor
