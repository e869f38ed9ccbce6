import RecordText.Proofs.Extractor.Recovery
import RecordText.Proofs.Text.Placement

namespace RecordText

namespace Record

def captureAll? (r : Record) (spans : List (Text × Text)) : Option Record :=
  spans.foldlM (fun r (name, value) => r.capture? name value) r

@[simp] theorem captureAll?_nil (r : Record) : r.captureAll? [] = some r := rfl

@[simp] theorem captureAll?_cons (r : Record) (name value : Text) (spans : List (Text × Text)) :
    r.captureAll? ((name, value) :: spans) =
      (r.capture? name value).bind (·.captureAll? spans) := rfl

theorem eq_set_of_capture? {r c : Record} {name value : Text}
    (h : r.capture? name value = some c) : c = r.set name value := by
  rw [capture?] at h
  split at h
  · exact (Option.some.inj h).symm
  · contradiction

theorem capture?_of_get?_eq_none {r : Record} {name : Text} (h : r.get? name = none)
    (value : Text) : r.capture? name value = some (r.set name value) :=
  capture?_of_agrees fun found hfound => by simp [h] at hfound

theorem exists_captureAll? {P : Text → Prop} (hP : ∀ u v, P u → P v → u.agrees v)
    {known : Record} {spans : List (Text × Text)}
    (hknown : ∀ name value, known.get? name = some value → P value)
    (hspans : ∀ span ∈ spans, P span.2) : ∃ c, known.captureAll? spans = some c := by
  induction spans generalizing known with
  | nil => exact ⟨known, rfl⟩
  | cons span spans ih =>
    obtain ⟨name, value⟩ := span
    obtain ⟨hvalue, hspans⟩ := List.forall_mem_cons.1 hspans
    rw [captureAll?_cons, capture?_of_agrees fun v hv => hP v value (hknown name v hv) hvalue]
    apply ih _ hspans
    intro n v hn
    rw [get?_set] at hn
    split at hn
    · cases hn
      exact hvalue
    · exact hknown n v hn

theorem fill_some_eq_ok_iff {r c : Record} {name value : Text} {next : Record → Extraction} :
    r.fill (some name) value next = .mk c none ↔
      ∃ known, r.capture? name value = some known ∧ next known = .mk c none := by
  rw [fill]
  cases r.capture? name value <;> simp

end Record

theorem Extraction.isOk_iff {x : Extraction} : x.isOk ↔ ∃ c, x = .mk c none := by
  obtain ⟨captures, failure⟩ := x
  cases failure <;> simp [isOk]

namespace Extractor

open Piece

/-- `Matches pending ps s spans`: the pieces match the text, where the slot `pending` waits for the
literal behind it, and the spans are what the slots get in their order. -/
inductive Matches : (pending : Option Text) → List Piece → Text → List (Text × Text) → Prop
  | done {s} : Matches none [] s []
  | last {name s} : Matches (some name) [] s [(name, s)]
  | slot {name ps s spans} : Matches (some name) ps s spans →
      Matches none (.slot name :: ps) s spans
  | skip {l before after ps spans} : Text.FirstBehind l before → Matches none ps after spans →
      Matches none (.literal l :: ps) (before ++ l ++ after) spans
  | close {name l before after ps spans} : Text.FirstBehind l before → Matches none ps after spans →
      Matches (some name) (.literal l :: ps) (before ++ l ++ after) ((name, before) :: spans)

variable {pending : Option Text} {ps : List Piece} {s : Text} {spans : List (Text × Text)}

theorem exists_matches_of_scan {known c : Record} (h : scan known pending ps s = .mk c none) :
    ∃ spans, Matches pending ps s spans ∧ known.captureAll? spans = some c := by
  fun_induction scan known pending ps s with
  | case1 known pending s =>
    cases pending with
    | none =>
      cases h
      exact ⟨[], .done, rfl⟩
    | some name =>
      obtain ⟨_, hcapture, heq⟩ := Record.fill_some_eq_ok_iff.1 h
      cases heq
      exact ⟨[(name, s)], .last, by simp [hcapture]⟩
  | case2 => cases h
  | case3 known pending l ps s value rest hcut ih =>
    obtain ⟨rfl, hfirst⟩ := Text.cut?_eq_some_iff.1 hcut
    cases pending with
    | none =>
      obtain ⟨spans, hmatch, hspans⟩ := ih known h
      exact ⟨spans, .skip hfirst hmatch, hspans⟩
    | some name =>
      obtain ⟨next, hcapture, h⟩ := Record.fill_some_eq_ok_iff.1 h
      obtain ⟨spans, hmatch, hspans⟩ := ih next h
      exact ⟨(name, value) :: spans, .close hfirst hmatch, by simp [hcapture, hspans]⟩
  | case4 known name ps s ih =>
    obtain ⟨spans, hmatch, hspans⟩ := ih h
    exact ⟨spans, .slot hmatch, hspans⟩
  | case5 => cases h

namespace Matches

theorem scan_eq {known c : Record} (h : Matches pending ps s spans)
    (hspans : known.captureAll? spans = some c) : scan known pending ps s = .mk c none := by
  induction h generalizing known with
  | done =>
    cases hspans
    rfl
  | last =>
    obtain ⟨next, hcapture, heq⟩ := Option.bind_eq_some_iff.1 hspans
    exact Record.fill_some_eq_ok_iff.2 ⟨next, hcapture, by cases heq; rfl⟩
  | slot _ ih => exact ih hspans
  | skip hfirst _ ih =>
    rw [scan, Text.cut?_append hfirst]
    exact ih hspans
  | close hfirst _ ih =>
    obtain ⟨next, hcapture, hrest⟩ := Option.bind_eq_some_iff.1 hspans
    rw [scan, Text.cut?_append hfirst]
    exact Record.fill_some_eq_ok_iff.2 ⟨next, hcapture, ih hrest⟩

theorem placeable (h : Matches pending ps s spans) : Text.Placeable (ps.filterMap literal?) s := by
  induction h with
  | done => exact ⟨_, .nil⟩
  | last => exact ⟨_, .nil⟩
  | slot _ ih => exact ih
  | skip _ _ ih =>
    obtain ⟨rest, hrest⟩ := ih
    exact ⟨rest, .cons hrest⟩
  | close _ _ ih =>
    obtain ⟨rest, hrest⟩ := ih
    exact ⟨rest, .cons hrest⟩

theorem separated (h : Matches pending ps s spans) : Separated (awaiting pending ps) := by
  induction h with
  | done => exact .nil
  | last => exact .singleton _
  | slot _ ih => exact ih
  | skip _ _ ih => exact List.isChain_cons.2 ⟨by simp, ih⟩
  | close _ _ ih =>
    exact List.isChain_cons_cons.2 ⟨.inr rfl, List.isChain_cons.2 ⟨by simp, ih⟩⟩

theorem names (h : Matches pending ps s spans) :
    spans.map (·.1) = (awaiting pending ps).filterMap slot? := by
  induction h with
  | done => rfl
  | last => rfl
  | slot _ ih => exact ih
  | skip _ _ ih => exact ih
  | @close name _ _ _ _ _ _ _ ih => exact congrArg (name :: ·) ih

end Matches

theorem extract_eq_ok_iff {e : Extractor} {c : Record} :
    e.extract s = .mk c none ↔
      ∃ spans, Matches none e.pieces s spans ∧ Record.empty.captureAll? spans = some c := by
  constructor
  · exact exists_matches_of_scan
  · rintro ⟨spans, hmatch, hspans⟩
    exact hmatch.scan_eq hspans

end Extractor

end RecordText
