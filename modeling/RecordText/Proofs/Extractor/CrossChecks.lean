import Mathlib.Data.List.Nodup
import RecordText.Proofs.Extractor.Captures
import RecordText.Proofs.Extractor.Padding
import RecordText.Proofs.Extractor.Reachable

namespace RecordText

theorem Record.exists_captureAll?_or (r : Record) (spans : List (Text × Text)) :
    (∃ c, r.captureAll? spans = some c) ∨ ∃ value name found,
      (r.captureEach spans).failure = some (.conflict value name) ∧ (name, value) ∈ spans ∧
        (r.get? name = some found ∨ (name, found) ∈ spans) ∧ found.normalize ≠ value.normalize := by
  induction spans generalizing r with
  | nil => exact .inl ⟨r, rfl⟩
  | cons span spans ih =>
    obtain ⟨n, v⟩ := span
    cases hcapture : r.capture? n v with
    | none =>
      obtain ⟨found, hfound, hne⟩ := capture?_eq_none_iff.1 hcapture
      refine .inr ⟨v, n, found, ?_, List.mem_cons_self, .inl hfound, hne⟩
      simp only [captureEach, hcapture]
    | some next =>
      obtain rfl := eq_set_of_capture? hcapture
      obtain ⟨c, hc⟩ | ⟨value, name, found, hfailure, hvalue, hfound, hne⟩ := ih (r.set n v)
      · exact .inl ⟨c, by simp [hcapture, hc]⟩
      · refine .inr ⟨value, name, found, ?_, List.mem_cons_of_mem _ hvalue, ?_, hne⟩
        · simpa only [captureEach, hcapture] using hfailure
        · rw [get?_set] at hfound
          grind

theorem Failure.prefix_message_iff {f : Failure} :
    "Unable to apply".toList <+: f.message ↔ ∃ value name, f = .conflict value name := by
  cases f with
  | notFound l rest =>
    refine iff_of_false (fun h => ?_) (by simp)
    exact Bool.noConfusion (List.isPrefixOf_iff_prefix.2 h)
  | conflict value name => exact iff_of_true (List.isPrefixOf_iff_prefix.1 rfl) ⟨value, name, rfl⟩
  | inseparable first second =>
    refine iff_of_false (fun h => ?_) (by simp)
    exact Bool.noConfusion (List.isPrefixOf_iff_prefix.2 h)

namespace Extractor

open Piece

theorem exists_firstBehind_ne {l : Text} (h : l ≠ []) :
    ∃ value : Text, Text.FirstBehind l value ∧ value.normalize ≠ [] := by
  obtain ⟨c, l, rfl⟩ := List.exists_cons_of_ne_nil h
  by_cases hc : c = 'x'
  · exact ⟨['y'], Text.firstBehind_singleton rfl (by rw [hc]; decide), by decide⟩
  · exact ⟨['x'], Text.firstBehind_singleton rfl (Ne.symm hc), by decide⟩

theorem exists_matches_empty {ps : List Piece} (hsep : Separated ps) :
    ∃ s spans, Matches none ps s spans ∧ (∀ span ∈ spans, span.2 = []) ∧
      ∀ name ∈ ps.filterMap slot?, (name, []) ∈ spans := by
  obtain ⟨spans, hmatch, hspans⟩ := @exists_matches_padding (fun _ => []) none ps
    (fun l _ => Text.firstBehind_nil l) hsep
  have hnil : ∀ span ∈ spans, span.2 = [] := by simpa using hspans
  refine ⟨_, spans, hmatch, hnil, fun name hname => ?_⟩
  rw [← awaiting_none ps, ← hmatch.names, List.mem_map] at hname
  obtain ⟨span, hspan, rfl⟩ := hname
  rwa [← hnil span hspan]

/-- A text that gives one of two slots of a name a value, and all other slots nothing. -/
theorem exists_matches_repeated {name : Text} {pending : Option Text} {ps : List Piece}
    (hsep : Separated (awaiting pending ps)) (hne : [] ∉ ps.filterMap literal?)
    (hcount : 1 < ((awaiting pending ps).filterMap slot?).count name) :
    ∃ s spans value, Matches pending ps s spans ∧ (name, value) ∈ spans ∧ (name, []) ∈ spans ∧
      value.normalize ≠ [] ∧ ∀ span ∈ spans, span.1 = name ∨ span.2 = [] := by
  induction ps generalizing pending with
  | nil =>
    cases pending with
    | none => simp at hcount
    | some n =>
      have hle := List.count_le_length (a := name) (l := [n])
      exact absurd hcount (Nat.not_lt.2 hle)
  | cons p ps ih =>
    cases p with
    | slot n =>
      cases pending with
      | none =>
        obtain ⟨s, spans, value, hmatch, hspans⟩ := @ih (some n) hsep hne hcount
        exact ⟨s, spans, value, .slot hmatch, hspans⟩
      | some first => exact absurd hsep (not_separated_slot first n ps)
    | literal l =>
      obtain ⟨hl, hne⟩ := not_or.1 (mt List.mem_cons.2 hne)
      cases pending with
      | none =>
        obtain ⟨s, spans, value, hmatch, hspans⟩ := @ih none hsep.tail hne hcount
        exact ⟨_, spans, value, .skip (Text.firstBehind_nil l) hmatch, hspans⟩
      | some n =>
        have hrest : Separated (awaiting none ps) := hsep.tail.tail
        -- the value goes to the last slot of the name but one, so that the last one disagrees with it
        by_cases hlater : 1 < (ps.filterMap slot?).count name
        · obtain ⟨s, spans, value, hmatch, hvalue, hnil, hnormal, hspans⟩ := @ih none hrest hne hlater
          refine ⟨_, _, value, .close (Text.firstBehind_nil l) hmatch, List.mem_cons_of_mem _ hvalue,
            List.mem_cons_of_mem _ hnil, hnormal, List.forall_mem_cons.2 ⟨.inr rfl, hspans⟩⟩
        · have hcount : 1 < (n :: ps.filterMap slot?).count name := hcount
          rw [List.count_cons] at hcount
          obtain rfl : n = name := by grind
          have hmem : n ∈ ps.filterMap slot? := List.count_pos_iff.1 (by grind)
          obtain ⟨value, hfirst, hnormal⟩ := exists_firstBehind_ne (Ne.symm hl)
          obtain ⟨s, spans, hmatch, hnil, hnames⟩ := exists_matches_empty hrest
          exact ⟨_, _, value, .close hfirst hmatch, List.mem_cons_self, List.mem_cons_of_mem _ (hnames n hmem),
            hnormal, List.forall_mem_cons.2 ⟨.inl rfl, fun span hspan => .inr (hnil span hspan)⟩⟩

theorem exists_conflict_of_one_lt_count {e : Extractor} {name : Text} (hsep : Separated e.pieces)
    (hne : [] ∉ e.literals) (hcount : 1 < e.slots.count name) :
    ∃ s value, (e.extract s).failure = some (.conflict value name) := by
  obtain ⟨s, spans, value, hmatch, hvalue, hnil, hnormal, hspans⟩ :=
    @exists_matches_repeated name none e.pieces hsep hne hcount
  have hextract : e.extract s = Record.empty.captureEach spans := hmatch.scan_eq_captureEach _
  obtain ⟨c, hc⟩ | ⟨v, n, found, hfailure, hv, hfound, hdiffer⟩ := Record.exists_captureAll?_or .empty spans
  · exact absurd (Record.normalize_eq_of_captureAll? hc hvalue hnil) hnormal
  · refine ⟨s, v, ?_⟩
    rw [Record.get?_empty] at hfound
    have hfound : (n, found) ∈ spans := by simpa using hfound
    -- slots of other names are given nothing and cannot disagree
    obtain rfl : n = name := by
      by_contra hn
      have hvnil : v = [] := (hspans _ hv).resolve_left hn
      have hfoundNil : found = [] := (hspans _ hfound).resolve_left hn
      exact hdiffer (by rw [hvnil, hfoundNil])
    rw [hextract, hfailure]

theorem one_lt_count_of_conflict {e : Extractor} {s value name : Text}
    (h : (e.extract s).failure = some (.conflict value name)) : 1 < e.slots.count name := by
  obtain ⟨ps, back, spans, rest, hpieces, hpasses, hspans, hstops⟩ :=
    extract_eq_failed_iff.1 (Extraction.eq_mk_of_failure h)
  obtain ⟨qs, rfl⟩ := hstops.exists_eq_cons
  obtain ⟨found, hfound, -⟩ := Record.capture?_eq_none_iff.1 hstops.capture?_eq_none
  have hmem : name ∈ ps.filterMap slot? := by
    rw [← awaiting_none ps, ← hpasses.matches.names]
    exact List.mem_map_of_mem (Record.mem_of_get?_captureAll? hspans hfound)
  have hpos := List.count_pos_iff.2 hmem
  rw [slots, hpieces, List.filterMap_append, List.count_append, List.filterMap_cons_some (slot?_slot name),
    List.count_cons_self]
  omega

def CrossChecks (e : Extractor) : Prop :=
  ∃ s m, (e.extract s).message? = some m ∧ "Unable to apply".toList <+: m

theorem crossChecks_iff_exists_conflict {e : Extractor} :
    e.CrossChecks ↔ ∃ name s value, (e.extract s).failure = some (.conflict value name) := by
  constructor
  · rintro ⟨s, m, hm, hprefix⟩
    obtain ⟨f, hf, rfl⟩ := Option.map_eq_some_iff.1 hm
    obtain ⟨value, name, rfl⟩ := Failure.prefix_message_iff.1 hprefix
    exact ⟨name, s, value, hf⟩
  · rintro ⟨name, s, value, hf⟩
    exact ⟨s, _, Option.map_eq_some_iff.2 ⟨_, hf, rfl⟩, Failure.prefix_message_iff.2 ⟨value, name, rfl⟩⟩

theorem CrossChecks.not_nodup {e : Extractor} (h : e.CrossChecks) : ¬ e.slots.Nodup := by
  obtain ⟨name, s, value, hfailure⟩ := crossChecks_iff_exists_conflict.1 h
  intro hnodup
  exact Nat.not_lt.2 (List.nodup_iff_count_le_one.1 hnodup name) (one_lt_count_of_conflict hfailure)

theorem verifiers_eq_zero_iff {e : Extractor} :
    e.complexity.verifiers = 0 ↔ (e.slots.map Text.lower).Nodup := by
  simp only [complexity, List.countP_eq_zero, List.mem_eraseDups, decide_eq_true_eq, Nat.not_lt]
  rw [List.nodup_iff_count_le_one]
  refine ⟨fun h name => ?_, fun h name _ => h name⟩
  by_cases hmem : name ∈ e.slots.map Text.lower
  · exact h name hmem
  · exact (List.count_eq_zero.2 hmem).trans_le (Nat.zero_le 1)

/-- A slot is checked against itself exactly if its name stands in the pattern twice as it is, but it counts as
checked also if the names differ in case only. So an extractor with no slot that counts as checked refuses no
value, and the converse holds unless names differ in case only where none stands twice. -/
theorem verifiers_iff_crossChecks {e : Extractor} (h : Reachable e) (hsep : Separated e.pieces) :
    (∀ name, (∃ s value, (e.extract s).failure = some (.conflict value name)) ↔ 1 < e.slots.count name) ∧
      (e.CrossChecks ↔ ¬ e.slots.Nodup) ∧
      (e.complexity.verifiers = 0 ↔ (e.slots.map Text.lower).Nodup) ∧
      (e.complexity.verifiers = 0 → ¬ e.CrossChecks) ∧
      ((e.complexity.verifiers = 0 ↔ ¬ e.CrossChecks) ↔
        (e.slots.Nodup → (e.slots.map Text.lower).Nodup)) := by
  have hconflict (name : Text) :
      (∃ s value, (e.extract s).failure = some (.conflict value name)) ↔ 1 < e.slots.count name :=
    ⟨fun ⟨_, _, hfailure⟩ => one_lt_count_of_conflict hfailure,
      exists_conflict_of_one_lt_count hsep h.constructed.nil_notMem_literals⟩
  have hchecks : e.CrossChecks ↔ ¬ e.slots.Nodup := by
    simp only [crossChecks_iff_exists_conflict, hconflict, List.nodup_iff_count_le_one, not_forall, Nat.not_le]
  have hnodup : (e.slots.map Text.lower).Nodup → e.slots.Nodup := .of_map _
  refine ⟨hconflict, hchecks, verifiers_eq_zero_iff, ?_, ?_⟩
  · rw [verifiers_eq_zero_iff, hchecks, not_not]
    exact hnodup
  · rw [verifiers_eq_zero_iff, hchecks, not_not]
    exact ⟨fun hiff => hiff.2, fun himp => ⟨hnodup, himp⟩⟩

theorem verifiers_iff_crossChecks_mixed_case :
    let e := (compile "%Track%. %title% (%track%, %title%)".toList .text).1
    (Reachable e ∧ Separated e.pieces) ∧ e.complexity.verifiers = 2 ∧ e.CrossChecks ∧
      (∃ s value, (e.extract s).failure = some (.conflict value "title".toList)) ∧
      ∀ s value, (e.extract s).failure ≠ some (.conflict value "track".toList) := by
  intro e
  have he : Reachable e := .compile _ _
  have hsep : Separated e.pieces := by decide
  obtain ⟨hconflict, hchecks, -⟩ := verifiers_iff_crossChecks he hsep
  have htrack : ¬ 1 < e.slots.count "track".toList := by decide
  exact ⟨⟨he, hsep⟩, by decide +kernel, hchecks.2 (by decide), (hconflict _).2 (by decide),
    fun s value hfailure => htrack ((hconflict _).1 ⟨s, value, hfailure⟩)⟩

/-- Two names that differ in case only count as one that is checked, and any two values are taken for them. -/
theorem not_forall_verifiers_iff_crossChecks :
    ¬ ∀ e, Reachable e → Separated e.pieces → (e.complexity.verifiers = 0 ↔ ¬ e.CrossChecks) := by
  intro h
  have hiff := h (compile "%Track% - %title% (%track%)".toList .text).1 (.compile _ _) (by decide)
  have hverifiers : (compile "%Track% - %title% (%track%)".toList .text).1.complexity.verifiers = 0 :=
    hiff.2 fun hchecks => hchecks.not_nodup (by decide)
  exact absurd hverifiers (by decide +kernel)

end Extractor

end RecordText
