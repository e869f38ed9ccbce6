import RecordText.Proofs.Extractor.Stopping

namespace RecordText

namespace Record

theorem agrees_of_captureAll?_cons {r c : Record} {name value : Text} {spans : List (Text × Text)}
    (h : r.captureAll? ((name, value) :: spans) = some c) :
    (∀ found, r.get? name = some found → found.normalize = value.normalize) ∧
      (r.set name value).captureAll? spans = some c := by
  rw [captureAll?_cons] at h
  obtain ⟨next, hcapture, h⟩ := Option.bind_eq_some_iff.1 h
  obtain rfl := eq_set_of_capture? hcapture
  refine ⟨fun found hfound => ?_, h⟩
  by_contra hne
  rw [capture?_eq_none_iff.2 ⟨found, hfound, hne⟩] at hcapture
  contradiction

theorem get?_captureAll? {r c : Record} {spans : List (Text × Text)}
    (h : r.captureAll? spans = some c) (n : Text) :
    c.get? n = (spans.reverse.lookup n).or (r.get? n) := by
  induction spans generalizing r with
  | nil =>
    cases h
    rfl
  | cons span spans ih =>
    rw [ih (agrees_of_captureAll?_cons h).2, get?_set, List.reverse_cons, List.lookup_append,
      Text.lookup_cons]
    split <;> simp

theorem normalize_of_captureAll? {r c : Record} {spans : List (Text × Text)}
    (h : r.captureAll? spans = some c) :
    (∀ n v, r.get? n = some v → ∃ w, c.get? n = some w ∧ v.normalize = w.normalize) ∧
      ∀ span ∈ spans, ∃ w, c.get? span.1 = some w ∧ span.2.normalize = w.normalize := by
  induction spans generalizing r with
  | nil =>
    cases h
    exact ⟨fun n v hv => ⟨v, hv, rfl⟩, by simp⟩
  | cons span spans ih =>
    obtain ⟨name, value⟩ := span
    obtain ⟨hagrees, hrest⟩ := agrees_of_captureAll?_cons h
    obtain ⟨hknown, hspans⟩ := ih hrest
    have hvalue := hknown name value (by simp)
    refine ⟨fun n v hv => ?_, List.forall_mem_cons.2 ⟨hvalue, hspans⟩⟩
    by_cases hn : n = name
    · subst hn
      rw [hagrees v hv]
      exact hvalue
    · exact hknown n v (by simp [hn, hv])

variable {c : Record} {spans : List (Text × Text)}

theorem has_captureAll?_iff (h : empty.captureAll? spans = some c) (n : Text) :
    c.has n ↔ n ∈ spans.map (·.1) := by
  rw [has, get?_captureAll? h, get?_empty, Option.or_none, List.lookup_isSome_iff, List.mem_map]
  simp only [List.mem_reverse, beq_iff_eq, @eq_comm _ n]

theorem mem_of_get?_captureAll? {n v : Text} (h : empty.captureAll? spans = some c)
    (hv : c.get? n = some v) : (n, v) ∈ spans := by
  rw [get?_captureAll? h, get?_empty, Option.or_none, List.lookup_eq_some_iff] at hv
  obtain ⟨back, front, hspans, -⟩ := hv
  rw [← List.mem_reverse, hspans]
  simp

theorem normalize_eq_of_captureAll? {n u v : Text} (h : empty.captureAll? spans = some c)
    (hu : (n, u) ∈ spans) (hv : (n, v) ∈ spans) : u.normalize = v.normalize := by
  obtain ⟨w, hw, huw⟩ := (normalize_of_captureAll? h).2 _ hu
  obtain ⟨w', hw', hvw⟩ := (normalize_of_captureAll? h).2 _ hv
  obtain rfl : w = w' := Option.some.inj (hw.symm.trans hw')
  exact huw.trans hvw.symm

def captureEach (r : Record) : List (Text × Text) → Extraction
  | [] => .mk r none
  | (name, value) :: spans =>
    match r.capture? name value with
    | some r => r.captureEach spans
    | none => .mk r (some (.conflict value name))

theorem captureEach_append {r c : Record} {spans : List (Text × Text)}
    (h : r.captureAll? spans = some c) (more : List (Text × Text)) :
    r.captureEach (spans ++ more) = c.captureEach more := by
  induction spans generalizing r with
  | nil =>
    cases h
    rfl
  | cons span spans ih =>
    obtain ⟨name, value⟩ := span
    rw [captureAll?_cons] at h
    obtain ⟨next, hcapture, h⟩ := Option.bind_eq_some_iff.1 h
    rw [List.cons_append, captureEach, hcapture]
    exact ih h

theorem captureEach_ne_conflict {r : Record} {name found value : Text} (hfound : r.get? name = some found)
    (hagrees : found.normalize = value.normalize) (spans : List (Text × Text)) :
    (r.captureEach spans).failure ≠ some (.conflict value name) := by
  induction spans generalizing r found with
  | nil => exact nofun
  | cons span spans ih =>
    obtain ⟨n, v⟩ := span
    rw [captureEach]
    split
    · next kept hcapture =>
      obtain rfl := eq_set_of_capture? hcapture
      by_cases hn : name = n
      · subst hn
        have hvalue : found.normalize = v.normalize := by
          by_contra hne
          rw [capture?_eq_none_iff.2 ⟨found, hfound, hne⟩] at hcapture
          contradiction
        exact ih (by simp) (hvalue.symm.trans hagrees)
      · exact ih (by simpa [hn] using hfound) hagrees
    · next hrefused =>
      intro h
      cases h
      obtain ⟨other, hother, hne⟩ := capture?_eq_none_iff.1 hrefused
      obtain rfl : found = other := Option.some.inj (hfound.symm.trans hother)
      exact hne hagrees

end Record

/-- A piece of an extractor with its text and all that stands in front of it. -/
structure Placed where
  piece : Piece
  front : Text
  text : Text

namespace Placed

def upTo (x : Placed) : Text := x.front ++ x.text

def capture? (x : Placed) : Option (Text × Text) := x.piece.slot?.map (·, x.text)

def captures (placed : List Placed) : List (Text × Text) := placed.filterMap capture?

theorem capture?_eq_some_iff {x : Placed} {n v : Text} :
    x.capture? = some (n, v) ↔ x.piece = .slot n ∧ x.text = v := by
  obtain ⟨piece, front, text⟩ := x
  cases piece <;> simp [capture?]

theorem mem_captures_iff {placed : List Placed} {n v : Text} :
    (n, v) ∈ captures placed ↔ ∃ x ∈ placed, x.piece = .slot n ∧ x.text = v := by
  simp only [captures, List.mem_filterMap, capture?_eq_some_iff]

end Placed

/-- The pieces stand in the text one behind the other, none reaching into the next. A literal stands
there as it is, and behind a slot at once and where it occurs first. -/
structure Layout (ps : List Piece) (s : Text) (placed : List Placed) : Prop where
  pieces : placed.map (·.piece) = ps
  inside : ∀ x ∈ placed, x.upTo <+: s
  ordered : placed.Pairwise fun x y => x.upTo <+: y.front
  literals : ∀ x ∈ placed, ∀ l ∈ x.piece.literal?, x.text = l
  first : placed.IsChain fun x y => x.piece.slot?.isSome →
    ∀ l ∈ y.piece.literal?, y.front = x.upTo ∧ Text.FirstBehind l x.text

namespace Layout

theorem nil (s : Text) : Layout [] s [] where
  pieces := rfl
  inside := by simp
  ordered := .nil
  literals := by simp
  first := .nil

variable {ps : List Piece} {s front : Text} {placed : List Placed}

theorem cons_literal (h : Layout ps s placed) {l : Text} (hs : front ++ l <+: s)
    (hplaced : ∀ x ∈ placed, front ++ l <+: x.front) :
    Layout (.literal l :: ps) s (.mk (.literal l) front l :: placed) where
  pieces := by simp [h.pieces]
  inside := List.forall_mem_cons.2 ⟨hs, h.inside⟩
  ordered := .cons hplaced h.ordered
  literals := List.forall_mem_cons.2 ⟨by simp, h.literals⟩
  first := List.isChain_cons.2 ⟨by simp, h.first⟩

theorem cons_slot {x : Placed} {name l value : Text}
    (h : Layout (.literal l :: ps) s (x :: placed)) (hx : x.front = front ++ value)
    (hfirst : Text.FirstBehind l value) :
    Layout (.slot name :: .literal l :: ps) s (.mk (.slot name) front value :: x :: placed) where
  pieces := by simp [h.pieces]
  inside := by
    have hinside := h.inside x List.mem_cons_self
    rw [Placed.upTo, hx] at hinside
    exact List.forall_mem_cons.2 ⟨(List.prefix_append _ _).trans hinside, h.inside⟩
  ordered := by
    refine .cons (List.forall_mem_cons.2 ⟨?_, fun y hy => ?_⟩) h.ordered
    · rw [hx]
      exact List.prefix_refl _
    · have hxy := List.rel_of_pairwise_cons h.ordered hy
      rw [Placed.upTo, hx] at hxy
      exact (List.prefix_append _ _).trans hxy
  literals := List.forall_mem_cons.2 ⟨by simp, h.literals⟩
  first := by
    refine List.isChain_cons_cons.2 ⟨fun _ m hm => ?_, h.first⟩
    have hpiece : x.piece = .literal l := (List.cons.inj h.pieces).1
    rw [hpiece] at hm
    cases hm
    exact ⟨hx, hfirst⟩

end Layout

namespace Extractor

open Piece

variable {pending : Option Text} {ps : List Piece} {s rest : Text} {spans : List (Text × Text)}

theorem Passes.matches (h : Passes ps s spans rest) : Matches none ps s spans := by
  induction h with
  | nil => exact .done
  | literal hfirst _ ih => exact .skip hfirst ih
  | slot hfirst _ ih => exact .slot (.close hfirst ih)

theorem Matches.exists_layout (h : Matches pending ps s spans) (front : Text) :
    ∃ placed, Layout (awaiting pending ps) (front ++ s) placed ∧
      Placed.captures placed = spans ∧ ∀ x ∈ placed, front <+: x.front := by
  induction h generalizing front with
  | @done s => exact ⟨[], .nil _, rfl, by simp⟩
  | @last name s =>
    refine ⟨[.mk (.slot name) front s], ?_, rfl, by simp⟩
    exact ⟨rfl, by simp [Placed.upTo], List.pairwise_singleton _ _, by simp, .singleton _⟩
  | slot _ ih => exact ih front
  | @skip l before after ps spans hfirst _ ih =>
    obtain ⟨placed, hlayout, hspans, hplaced⟩ := ih (front ++ before ++ l)
    have hassoc : front ++ (before ++ l ++ after) = front ++ before ++ l ++ after := by simp
    rw [hassoc]
    refine ⟨_, hlayout.cons_literal (List.prefix_append _ _) hplaced, hspans, ?_⟩
    refine List.forall_mem_cons.2 ⟨List.prefix_append _ _, fun x hx => ?_⟩
    exact ((List.prefix_append _ _).trans (List.prefix_append _ _)).trans (hplaced x hx)
  | @close name l before after ps spans hfirst _ ih =>
    obtain ⟨placed, hlayout, hspans, hplaced⟩ := ih (front ++ before ++ l)
    have hassoc : front ++ (before ++ l ++ after) = front ++ before ++ l ++ after := by simp
    rw [hassoc]
    have hliteral := hlayout.cons_literal (List.prefix_append _ _) hplaced
    refine ⟨_, hliteral.cons_slot rfl hfirst, congrArg ((name, before) :: ·) hspans, ?_⟩
    refine List.forall_mem_cons.2 ⟨List.prefix_refl _, ?_⟩
    refine List.forall_mem_cons.2 ⟨List.prefix_append _ _, fun x hx => ?_⟩
    exact ((List.prefix_append _ _).trans (List.prefix_append _ _)).trans (hplaced x hx)

theorem Matches.scan_eq_captureEach {pending : Option Text} {ps : List Piece} {s : Text}
    {spans : List (Text × Text)} (h : Matches pending ps s spans) (known : Record) :
    scan known pending ps s = known.captureEach spans := by
  induction h generalizing known with
  | done => rfl
  | @last name s => cases h : known.capture? name s <;> simp [scan, Record.fill, Record.captureEach, h]
  | slot _ ih => exact ih known
  | skip hfirst _ ih =>
    rw [scan, Text.cut?_append hfirst]
    exact ih known
  | @close name l before after ps spans hfirst _ ih =>
    rw [scan, Text.cut?_append hfirst]
    cases h : known.capture? name before with
    | none => simp [Record.fill, Record.captureEach, h]
    | some next => simp [Record.fill, Record.captureEach, h, ih next]

/-- What a successful extraction gives. Every slot has its span in the text, those of one slot agree, and
the last of them is its value. A value is refused because the slot has another in front of it that
disagrees. -/
theorem extract_captures (e : Extractor) (s : Text) :
    (∀ c, e.extract s = .mk c none → (∀ n, c.has n ↔ n ∈ e.slots) ∧
      ∃ placed, Layout e.pieces s placed ∧ Matches none e.pieces s (Placed.captures placed) ∧
        (∀ n, c.get? n = (Placed.captures placed).reverse.lookup n) ∧
        ∀ x ∈ placed, ∀ y ∈ placed, ∀ n, x.piece = .slot n → y.piece = .slot n →
          x.text.normalize = y.text.normalize) ∧
    ∀ value n, (e.extract s).failure = some (.conflict value n) →
      (e.extract s).message? = some ("Unable to apply <".toList ++ value ++ "> to ".toList ++ n) ∧
      ∃ ps qs placed, e.pieces = ps ++ .slot n :: qs ∧ Layout ps s placed ∧
        Matches none ps s (Placed.captures placed) ∧ ∃ x ∈ placed, x.piece = .slot n ∧
          (e.extract s).captures.get? n = some x.text ∧ x.text.normalize ≠ value.normalize := by
  constructor
  · intro c hextract
    obtain ⟨spans, hmatch, hspans⟩ := extract_eq_ok_iff.1 hextract
    obtain ⟨placed, hlayout, rfl, -⟩ := hmatch.exists_layout []
    refine ⟨fun n => ?_, placed, hlayout, hmatch, fun n => ?_, ?_⟩
    · rw [Record.has_captureAll?_iff hspans, hmatch.names]
      rfl
    · rw [Record.get?_captureAll? hspans, Record.get?_empty, Option.or_none]
    · intro x hx y hy n hxn hyn
      exact Record.normalize_eq_of_captureAll? hspans (Placed.mem_captures_iff.2 ⟨x, hx, hxn, rfl⟩)
        (Placed.mem_captures_iff.2 ⟨y, hy, hyn, rfl⟩)
  · intro value n hfailure
    refine ⟨congrArg (Option.map Failure.message) hfailure, ?_⟩
    obtain ⟨ps, back, spans, rest, hpieces, hpasses, hspans, hstops⟩ :=
      extract_eq_failed_iff.1 (Extraction.eq_mk_of_failure hfailure)
    obtain ⟨qs, rfl⟩ := hstops.exists_eq_cons
    obtain ⟨found, hfound, hne⟩ := Record.capture?_eq_none_iff.1 hstops.capture?_eq_none
    obtain ⟨placed, hlayout, rfl, -⟩ := hpasses.matches.exists_layout []
    obtain ⟨x, hx, hpiece, rfl⟩ :=
      Placed.mem_captures_iff.1 (Record.mem_of_get?_captureAll? hspans hfound)
    exact ⟨ps, qs, placed, hpieces, hlayout, hpasses.matches, x, hx, hpiece, hfound, hne⟩

theorem extract_captures_repeated_slot :
    let e := (compile "%a%,%b%:%a%;%a%".toList .text).1
    let s := "A_b,:ab;0aB ".toList
    let c := Record.mk [("a".toList, "0aB ".toList), ("b".toList, [])]
    let t := "x,:x;y".toList
    (e.extract s = .mk c none ∧ (e.extract t).failure = some (.conflict ['y'] ['a'])) ∧
      ((∀ n, c.has n ↔ n ∈ e.slots) ∧
        ∃ placed, Layout e.pieces s placed ∧ Matches none e.pieces s (Placed.captures placed) ∧
          (∀ n, c.get? n = (Placed.captures placed).reverse.lookup n) ∧
          ∀ x ∈ placed, ∀ y ∈ placed, ∀ n, x.piece = .slot n → y.piece = .slot n →
            x.text.normalize = y.text.normalize) ∧
      (e.extract t).message? = some ("Unable to apply <".toList ++ ['y'] ++ "> to ".toList ++ ['a']) ∧
      ∃ ps qs placed, e.pieces = ps ++ .slot ['a'] :: qs ∧ Layout ps t placed ∧
        Matches none ps t (Placed.captures placed) ∧ ∃ x ∈ placed, x.piece = .slot ['a'] ∧
          (e.extract t).captures.get? ['a'] = some x.text ∧
            x.text.normalize ≠ Text.normalize ['y'] := by
  intro e s c t
  have hextract : e.extract s = .mk c none := by decide
  have hfailure : (e.extract t).failure = some (.conflict ['y'] ['a']) := by decide
  exact ⟨⟨hextract, hfailure⟩, (extract_captures e s).1 c hextract,
    (extract_captures e t).2 ['y'] ['a'] hfailure⟩

end Extractor

end RecordText
