import RecordText.Proofs.Extractor.Matching

namespace RecordText

theorem Record.capture?_eq_none_iff {r : Record} {name value : Text} :
    r.capture? name value = none ↔
      ∃ found, r.get? name = some found ∧ found.normalize ≠ value.normalize := by
  rw [capture?]
  cases r.get? name <;> simp [Text.agrees]

theorem Extraction.eq_mk_of_failure {x : Extraction} {f : Failure} (h : x.failure = some f) :
    x = .mk x.captures (some f) := by
  obtain ⟨captures, failure⟩ := x
  exact congrArg (Extraction.mk captures) h

theorem Extraction.exists_failure_of_not_isOk {x : Extraction} (h : ¬ x.isOk) :
    ∃ f, x.failure = some f := by
  simpa [isOk, Option.ne_none_iff_exists'] using h

namespace Extractor

open Piece

/-- `Passes ps s spans rest`: the pieces, which end with a literal if there are any, match the text up to
`rest`, and the spans are what the slots among them get. -/
inductive Passes : List Piece → Text → List (Text × Text) → Text → Prop
  | nil {s} : Passes [] s [] s
  | literal {l before after ps spans rest} : Text.FirstBehind l before →
      Passes ps after spans rest → Passes (.literal l :: ps) (before ++ l ++ after) spans rest
  | slot {name l value after ps spans rest} : Text.FirstBehind l value →
      Passes ps after spans rest →
      Passes (.slot name :: .literal l :: ps) (value ++ l ++ after) ((name, value) :: spans) rest

/-- `Stops known ps s f`: with the captures `known` made, the matching of the pieces fails before another
is made. -/
inductive Stops (known : Record) : List Piece → Text → Failure → Prop
  | missing {l s ps} : ¬ l <:+: s → Stops known (.literal l :: ps) s (.notFound l s)
  | missingBehind {name l s ps} : ¬ l <:+: s →
      Stops known (.slot name :: .literal l :: ps) s (.notFound l s)
  | refused {name l value after ps} : Text.FirstBehind l value → known.capture? name value = none →
      Stops known (.slot name :: .literal l :: ps) (value ++ l ++ after) (.conflict value name)
  | refusedLast {name s} : known.capture? name s = none →
      Stops known [.slot name] s (.conflict s name)
  | adjacent {first second s ps} :
      Stops known (.slot first :: .slot second :: ps) s (.inseparable first second)

variable {known c : Record} {pending : Option Text} {ps qs : List Piece} {s rest : Text}
  {spans : List (Text × Text)} {f : Failure}

namespace Passes

theorem getLast?_literal (h : Passes ps s spans rest) : ∀ p ∈ ps.getLast?, p.literal?.isSome := by
  induction h with
  | nil => simp
  | @literal l _ _ ps _ _ _ _ ih => cases ps <;> simp_all
  | @slot _ l _ _ ps _ _ _ _ ih => cases ps <;> simp_all

theorem scan_append (h : Passes ps s spans rest) (hspans : known.captureAll? spans = some c)
    (qs : List Piece) : scan known none (ps ++ qs) s = scan c none qs rest := by
  induction h generalizing known with
  | nil =>
    cases hspans
    rfl
  | literal hfirst _ ih =>
    rw [List.cons_append, scan, Text.cut?_append hfirst]
    exact ih hspans
  | slot hfirst _ ih =>
    obtain ⟨next, hcapture, hrest⟩ := Option.bind_eq_some_iff.1 hspans
    rw [List.cons_append, List.cons_append, scan, scan, Text.cut?_append hfirst]
    simp only [Record.fill, hcapture]
    exact ih hrest

theorem scan_eq (h : Passes ps s spans rest) (hspans : known.captureAll? spans = some c) :
    scan known none ps s = .mk c none := by
  rw [← List.append_nil ps, h.scan_append hspans]
  rfl

end Passes

theorem Stops.scan_eq (h : Stops known ps s f) : scan known none ps s = .mk known (some f) := by
  cases h with
  | missing hmissing => rw [scan, Text.cut?_eq_none_iff.2 hmissing]
  | missingBehind hmissing => rw [scan, scan, Text.cut?_eq_none_iff.2 hmissing]
  | refused hfirst hrefused =>
    rw [scan, scan, Text.cut?_append hfirst]
    simp only [Record.fill, hrefused]
  | refusedLast hrefused => simp only [scan, Record.fill, hrefused]
  | adjacent => rfl

theorem Stops.ne_nil (h : Stops known ps s f) : ps ≠ [] := by cases h <;> simp

theorem Stops.exists_eq_cons {value name : Text} (h : Stops known ps s (.conflict value name)) :
    ∃ qs, ps = .slot name :: qs := by
  cases h with
  | refused => exact ⟨_, rfl⟩
  | refusedLast => exact ⟨[], rfl⟩

theorem Stops.capture?_eq_none {value name : Text} (h : Stops known ps s (.conflict value name)) :
    known.capture? name value = none := by
  cases h with
  | refused _ hrefused => exact hrefused
  | refusedLast hrefused => exact hrefused

theorem exists_passes_of_scan (h : scan known pending ps s = .mk c (some f)) :
    ∃ front back spans rest, awaiting pending ps = front ++ back ∧ Passes front s spans rest ∧
      known.captureAll? spans = some c ∧ Stops c back rest f := by
  fun_induction scan known pending ps s with
  | case1 known pending s =>
    cases pending with
    | none => cases h
    | some name =>
      rw [Record.fill] at h
      split at h
      · cases h
      · next hrefused =>
        cases h
        exact ⟨[], _, [], s, rfl, .nil, rfl, .refusedLast hrefused⟩
  | case2 known pending l ps s hcut =>
    cases h
    have hmissing := Text.cut?_eq_none_iff.1 hcut
    cases pending with
    | none => exact ⟨[], _, [], s, rfl, .nil, rfl, .missing hmissing⟩
    | some name => exact ⟨[], _, [], s, rfl, .nil, rfl, .missingBehind hmissing⟩
  | case3 known pending l ps s value after hcut ih =>
    obtain ⟨rfl, hfirst⟩ := Text.cut?_eq_some_iff.1 hcut
    cases pending with
    | none =>
      obtain ⟨front, back, spans, rest, rfl, hpasses, hspans, hstops⟩ := ih known h
      exact ⟨.literal l :: front, back, spans, rest, rfl, .literal hfirst hpasses, hspans, hstops⟩
    | some name =>
      rw [Record.fill] at h
      split at h
      · next kept hcapture =>
        obtain ⟨front, back, spans, rest, rfl, hpasses, hspans, hstops⟩ := ih kept h
        exact ⟨.slot name :: .literal l :: front, back, (name, value) :: spans, rest, rfl,
          .slot hfirst hpasses, by simp [hcapture, hspans], hstops⟩
      · next hrefused =>
        cases h
        exact ⟨[], _, [], _, rfl, .nil, rfl, .refused hfirst hrefused⟩
  | case4 known name ps s ih => exact ih h
  | case5 known name ps s first =>
    cases h
    exact ⟨[], _, [], s, rfl, .nil, rfl, .adjacent⟩

theorem extract_eq_failed_iff {e : Extractor} :
    e.extract s = .mk c (some f) ↔
      ∃ front back spans rest, e.pieces = front ++ back ∧ Passes front s spans rest ∧
        Record.empty.captureAll? spans = some c ∧ Stops c back rest f := by
  constructor
  · exact exists_passes_of_scan
  · rintro ⟨front, back, spans, rest, hpieces, hpasses, hspans, hstops⟩
    rw [extract, hpieces, hpasses.scan_append hspans]
    exact hstops.scan_eq

/-- A failed extraction keeps what fewer pieces extract: those in front of the one that stops the
matching, up to the last literal that was found. A value that is refused leaves the one that it
disagrees with. -/
theorem extract_failed {e : Extractor} {s : Text} (h : ¬ (e.extract s).isOk) :
    ∃ ps qs, e.pieces = ps ++ qs ∧ qs ≠ [] ∧ (∀ p ∈ ps.getLast?, p.literal?.isSome) ∧
      (∀ e' : Extractor, e'.pieces = ps → e'.extract s = .mk (e.extract s).captures none) ∧
      ∀ value name, (e.extract s).failure = some (.conflict value name) →
        ∃ found, (e.extract s).captures.get? name = some found ∧
          found.normalize ≠ value.normalize := by
  obtain ⟨f, hfailure⟩ := Extraction.exists_failure_of_not_isOk h
  obtain ⟨front, back, spans, rest, hpieces, hpasses, hspans, hstops⟩ :=
    extract_eq_failed_iff.1 (Extraction.eq_mk_of_failure hfailure)
  refine ⟨front, back, hpieces, hstops.ne_nil, hpasses.getLast?_literal, ?_, ?_⟩
  · rintro e' rfl
    exact hpasses.scan_eq hspans
  · intro value name hconflict
    obtain rfl : f = .conflict value name := Option.some.inj (hfailure.symm.trans hconflict)
    exact Record.capture?_eq_none_iff.1 hstops.capture?_eq_none

theorem extract_failed_refused :
    let e := (compile "%a%-%b%:%a%;%c%".toList .text).1
    let s := "1-2:3;4".toList
    ¬ (e.extract s).isOk ∧
      ∃ ps qs, e.pieces = ps ++ qs ∧ qs ≠ [] ∧ (∀ p ∈ ps.getLast?, p.literal?.isSome) ∧
        (∀ e' : Extractor, e'.pieces = ps → e'.extract s = .mk (e.extract s).captures none) ∧
        ∀ value name, (e.extract s).failure = some (.conflict value name) →
          ∃ found, (e.extract s).captures.get? name = some found ∧
          found.normalize ≠ value.normalize := by
  intro e s
  have hfails : ¬ (e.extract s).isOk := by decide
  exact ⟨hfails, extract_failed hfails⟩

end Extractor

end RecordText
