import RecordText.Proofs.Extractor.Matching

namespace RecordText.Extractor

open Piece

def FailsAtFirstMiss (ps : List Piece) (s : Text) (x : Extraction) : Prop :=
  x.failure = none ∨
    ∃ l rest, Text.FirstMiss (ps.filterMap literal?) s l rest ∧ x.failure = some (.notFound l rest)

theorem FailsAtFirstMiss.cons_literal {l before after : Text} {ps : List Piece} {x : Extraction}
    (hfirst : Text.FirstBehind l before) (h : FailsAtFirstMiss ps after x) :
    FailsAtFirstMiss (.literal l :: ps) (before ++ l ++ after) x := by
  cases h with
  | inl h => exact .inl h
  | inr h =>
    obtain ⟨miss, rest, hmiss, hfailure⟩ := h
    exact .inr ⟨miss, rest, hmiss.cons hfirst, hfailure⟩

-- No name comes twice and none is known yet, so that no capture can disagree with an earlier one.
theorem failsAtFirstMiss_scan {known : Record} {pending : Option Text} {ps : List Piece} {s : Text}
    (hsep : Separated (awaiting pending ps))
    (hnodup : ((awaiting pending ps).filterMap slot?).Nodup)
    (hnew : ∀ name ∈ (awaiting pending ps).filterMap slot?, known.get? name = none) :
    FailsAtFirstMiss ps s (scan known pending ps s) := by
  induction ps generalizing known pending s with
  | nil =>
    cases pending with
    | none => exact .inl rfl
    | some name =>
      have hcapture := Record.capture?_of_get?_eq_none (hnew name List.mem_cons_self) s
      simp [FailsAtFirstMiss, scan, Record.fill, hcapture]
  | cons p ps ih =>
    cases p with
    | slot name =>
      cases pending with
      | none => exact ih hsep hnodup hnew
      | some first => exact absurd hsep (not_separated_slot first name ps)
    | literal l =>
      rw [scan]
      cases hcut : Text.cut? l s with
      | none => exact .inr ⟨l, s, .head _ (Text.cut?_eq_none_iff.1 hcut), rfl⟩
      | some parts =>
        obtain ⟨rfl, hfirst⟩ := Text.cut?_eq_some_iff.1 hcut
        apply FailsAtFirstMiss.cons_literal hfirst
        cases pending with
        | none => exact ih hsep.tail hnodup hnew
        | some name =>
          have hrest : Separated (awaiting none ps) := hsep.tail.tail
          have hnames : (name :: ps.filterMap slot?).Nodup := hnodup
          have hcapture := Record.capture?_of_get?_eq_none (hnew name List.mem_cons_self) parts.1
          simp only [Record.fill, hcapture]
          apply ih hrest hnames.tail
          intro n hn
          rw [Record.get?_set, if_neg, hnew n (List.mem_cons_of_mem name hn)]
          rintro rfl
          exact (List.nodup_cons.1 hnames).1 hn

theorem extract_isOk {e : Extractor} {s : Text} (h : (e.extract s).isOk) :
    Separated e.pieces ∧ Text.Placeable e.literals s := by
  obtain ⟨c, hc⟩ := Extraction.isOk_iff.1 h
  obtain ⟨spans, hmatch, -⟩ := extract_eq_ok_iff.1 hc
  exact ⟨hmatch.separated, hmatch.placeable⟩

/-- Looking for each literal where it occurs first misses no text in which the literals have places
at all, and what is reported is the first literal without one. -/
theorem extract_isOk_iff_placeable (e : Extractor) (s : Text) :
    (Separated e.pieces → e.slots.Nodup →
      ((e.extract s).isOk ↔ Text.Placeable e.literals s) ∧
      (¬ (e.extract s).isOk → ∃ l rest, Text.FirstMiss e.literals s l rest ∧
        (e.extract s).message? =
          some ("Unable to find ".toList ++ l ++ " in ".toList ++ rest))) ∧
    (¬ Separated e.pieces → ¬ (e.extract s).isOk) := by
  refine ⟨fun hsep hnodup => ?_, fun hsep h => hsep (extract_isOk h).1⟩
  have hscan : FailsAtFirstMiss e.pieces s (e.extract s) :=
    @failsAtFirstMiss_scan .empty none e.pieces s hsep hnodup fun _ _ => rfl
  cases hscan with
  | inl hok =>
    have hisOk : (e.extract s).isOk := by simp [Extraction.isOk, hok]
    exact ⟨iff_of_true hisOk (extract_isOk hisOk).2, fun h => absurd hisOk h⟩
  | inr hmiss =>
    obtain ⟨l, rest, hmiss, hfailure⟩ := hmiss
    have hisOk : ¬ (e.extract s).isOk := by simp [Extraction.isOk, hfailure]
    refine ⟨iff_of_false hisOk hmiss.not_placeable, fun _ => ⟨l, rest, hmiss, ?_⟩⟩
    rw [Extraction.message?, hfailure]
    rfl

theorem extract_isOk_iff_placeable_overlap :
    let e := (compile "%x%aa%y%aab".toList .text).1
    let s := "aaab".toList
    (Separated e.pieces ∧ e.slots.Nodup ∧ ¬ (e.extract s).isOk) ∧
      ¬ Text.Placeable e.literals s ∧ Text.Placeable e.literals ('a' :: s) ∧
      (∃ l rest, Text.FirstMiss e.literals s l rest ∧ (e.extract s).message? =
        some ("Unable to find ".toList ++ l ++ " in ".toList ++ rest)) ∧
      ¬ Separated (compile "%x%%y%".toList .text).1.pieces ∧
      ¬ ((compile "%x%%y%".toList .text).1.extract s).isOk := by
  intro e s
  have hsep : Separated e.pieces := by decide
  have hnodup : e.slots.Nodup := by decide
  have hfails : ¬ (e.extract s).isOk := by decide
  have hadjacent : ¬ Separated (compile "%x%%y%".toList .text).1.pieces := by decide
  have hs := (extract_isOk_iff_placeable e s).1 hsep hnodup
  have hlonger := (extract_isOk_iff_placeable e ('a' :: s)).1 hsep hnodup
  exact ⟨⟨hsep, hnodup, hfails⟩, fun h => hfails (hs.1.2 h), hlonger.1.1 (by decide),
    hs.2 hfails, hadjacent, (extract_isOk_iff_placeable _ s).2 hadjacent⟩

end RecordText.Extractor
