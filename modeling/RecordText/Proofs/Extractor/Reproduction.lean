import RecordText.Proofs.Extractor.Matching

namespace RecordText

theorem Record.copy_of_captureAll? {known c : Record} {spans : List (Text × Text)}
    (hnodup : (spans.map (·.1)).Nodup) (h : known.captureAll? spans = some c) :
    (∀ span ∈ spans, c.value span.1 = span.2) ∧ known.copy c (spans.map (·.1)) = c := by
  induction spans generalizing known with
  | nil =>
    cases h
    exact ⟨by simp, rfl⟩
  | cons span spans ih =>
    obtain ⟨name, value⟩ := span
    obtain ⟨next, hcapture, h⟩ := Option.bind_eq_some_iff.1 h
    obtain rfl := eq_set_of_capture? hcapture
    obtain ⟨hname, hnodup⟩ := List.nodup_cons.1 hnodup
    obtain ⟨hvalues, hcopy⟩ := ih hnodup h
    have hvalue : c.value name = value := by
      rw [← hcopy, Record.value, get?_copy, if_neg hname]
      simp
    refine ⟨List.forall_mem_cons.2 ⟨hvalue, hvalues⟩, ?_⟩
    rw [List.map_cons, copy_cons, hvalue]
    exact hcopy

namespace Extractor

open Piece

def Undivided (ps : List Piece) : Prop :=
  ps.IsChain fun p q => p.literal? = none ∨ q.literal? = none

instance : DecidablePred Undivided := fun _ => inferInstanceAs (Decidable (List.IsChain _ _))

theorem Undivided.head {l : Text} {ps : List Piece} (h : Undivided (.literal l :: ps)) :
    ∀ p ∈ ps.head?, p.literal? = none := by
  intro p hp
  simpa using (List.isChain_cons.1 h).1 p hp

/-- The text begins with what the pieces write for `r`, and ends with it if the last is a slot. -/
def BeginsWith (r : Record) (ps : List Piece) (s : Text) : Prop :=
  ∃ rest, s = ps.flatMap (render r) ++ rest ∧
    ((∃ name, ps.getLast? = some (.slot name)) → rest = [])

theorem BeginsWith.literal {r : Record} {ps : List Piece} {s : Text} (h : BeginsWith r ps s)
    (l : Text) : BeginsWith r (.literal l :: ps) (l ++ s) := by
  obtain ⟨rest, rfl, hlast⟩ := h
  refine ⟨rest, by simp [render], ?_⟩
  rintro ⟨name, hname⟩
  cases ps with
  | nil => cases hname
  | cons p ps => exact hlast ⟨name, by simpa using hname⟩

theorem BeginsWith.slot {r : Record} {p : Piece} {ps : List Piece} {s : Text}
    (h : BeginsWith r (p :: ps) s) (name : Text) :
    BeginsWith r (.slot name :: p :: ps) (r.value name ++ s) := by
  obtain ⟨rest, rfl, hlast⟩ := h
  exact ⟨rest, by simp [render], by simpa using hlast⟩

namespace Matches

variable {pending : Option Text} {ps : List Piece} {s : Text} {spans : List (Text × Text)}

theorem findable {r : Record} (h : Matches pending ps s spans)
    (hr : ∀ span ∈ spans, r.value span.1 = span.2) : Findable r (awaiting pending ps) := by
  induction h with
  | done => exact .nil
  | last => exact .singleton _
  | slot _ ih => exact ih hr
  | skip _ _ ih => exact List.isChain_cons.2 ⟨by simp, ih hr⟩
  | close hfirst _ ih =>
    obtain ⟨hvalue, hr⟩ := List.forall_mem_cons.1 hr
    refine List.isChain_cons_cons.2 ⟨?_, List.isChain_cons.2 ⟨by simp, ih hr⟩⟩
    intro name hname l hl
    cases hname
    cases hl
    rwa [hvalue]

-- Text is passed over only in front of a literal that has no slot there.
theorem beginsWith {r : Record} (h : Matches pending ps s spans)
    (hr : ∀ span ∈ spans, r.value span.1 = span.2) (hund : Undivided (awaiting pending ps))
    (hhead : ∀ p ∈ (awaiting pending ps).head?, p.literal? = none) :
    BeginsWith r (awaiting pending ps) s := by
  induction h with
  | done => exact ⟨_, rfl, by simp⟩
  | last => exact ⟨[], by simp_all [render], fun _ => rfl⟩
  | slot _ ih => exact ih hr hund hhead
  | skip _ _ _ => exact absurd (hhead _ rfl) (by simp)
  | @close name l before after ps spans _ _ ih =>
    obtain ⟨hvalue, hr⟩ := List.forall_mem_cons.1 hr
    have hundl : Undivided (.literal l :: ps) := hund.tail
    have hslot := ((ih hr hundl.tail hundl.head).literal l).slot name
    rwa [hvalue, ← List.append_assoc] at hslot

theorem exists_beginsWith {r : Record} (h : Matches none ps s spans)
    (hr : ∀ span ∈ spans, r.value span.1 = span.2) (hund : Undivided ps) :
    ∃ skipped t, s = skipped ++ t ∧ BeginsWith r ps t ∧
      ((∃ name, ps.head? = some (.slot name)) → skipped = []) := by
  cases ps with
  | nil => exact ⟨[], s, rfl, h.beginsWith hr hund (by simp), fun _ => rfl⟩
  | cons p ps =>
    cases p with
    | slot name => exact ⟨[], s, rfl, h.beginsWith hr hund (by simp), fun _ => rfl⟩
    | literal l =>
      cases h with
      | @skip _ before after _ _ _ h =>
        have hrest : BeginsWith r ps after := h.beginsWith hr hund.tail hund.head
        exact ⟨before, l ++ after, by simp, hrest.literal l, by simp⟩

end Matches

/-- What a pattern writes for the captures of a text is the part of the text that it matched, and
the same is captured from that part. -/
theorem evaluate_parse_extract {p s : Text} {m : Mode} {c : Record} (hdollar : '$' ∉ p)
    (hclosed : (compile p m).2 = none) (hund : Undivided (compile p m).1.pieces)
    (hnodup : (compile p m).1.slots.Nodup) (hextract : (compile p m).1.extract s = .mk c none) :
    ∃ n t, Node.parse p = .ok n ∧ (∀ l, n.evaluate l c = .ok t) ∧ t <:+: s ∧
      ((∃ first, (compile p m).1.pieces.head? = some (.slot first)) →
        (∃ last, (compile p m).1.pieces.getLast? = some (.slot last)) → t = s) ∧
      (compile p m).1.extract t = .mk c none := by
  obtain ⟨ps, hparse, hps⟩ := exists_parse_of_compile hdollar hclosed
  obtain ⟨spans, hmatch, hspans⟩ := extract_eq_ok_iff.1 hextract
  have hnames : spans.map (·.1) = (compile p m).1.slots := hmatch.names
  obtain ⟨hvalues, hcopy⟩ := Record.copy_of_captureAll? (hnames ▸ hnodup) hspans
  rw [hnames] at hcopy
  have htext := flatMap_render_eq_of_atoms c hps
  obtain ⟨skipped, _, rfl, ⟨rest, rfl, hlast⟩, hfirst⟩ := hmatch.exists_beginsWith hvalues hund
  rw [htext]
  refine ⟨_, _, hparse, fun l => evaluate_map_node l c ps, ⟨skipped, rest, ?_⟩, ?_, ?_⟩
  · exact List.append_assoc _ _ _
  · intro hhead hback
    rw [hfirst hhead, hlast hback, List.nil_append, List.append_nil]
  · rw [← htext, extract_render hmatch.separated (hmatch.findable hvalues), hcopy]

theorem evaluate_parse_extract_escaped :
    let p := "%a%: %b%%% %c%".toList
    let s := "x: y: 5% z% ".toList
    let c := ((compile p .text).1.extract s).captures
    ('$' ∉ p ∧ (compile p .text).2 = none ∧ Undivided (compile p .text).1.pieces ∧
        (compile p .text).1.slots.Nodup ∧ (compile p .text).1.extract s = .mk c none) ∧
      ∃ n t, Node.parse p = .ok n ∧ (∀ l, n.evaluate l c = .ok t) ∧ t <:+: s ∧
        ((∃ first, (compile p .text).1.pieces.head? = some (.slot first)) →
          (∃ last, (compile p .text).1.pieces.getLast? = some (.slot last)) → t = s) ∧
        (compile p .text).1.extract t = .mk c none := by
  intro p s c
  have hdollar : '$' ∉ p := by decide
  have hclosed : (compile p .text).2 = none := by decide
  have hund : Undivided (compile p .text).1.pieces := by decide
  have hnodup : (compile p .text).1.slots.Nodup := by decide
  have hextract : (compile p .text).1.extract s = .mk c none := by decide
  exact ⟨⟨hdollar, hclosed, hund, hnodup, hextract⟩,
    evaluate_parse_extract hdollar hclosed hund hnodup hextract⟩

end Extractor

end RecordText
