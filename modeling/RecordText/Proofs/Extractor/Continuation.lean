import RecordText.Proofs.Extractor.Captures

namespace RecordText

theorem Record.set_set (r : Record) (name value value' : Text) :
    (r.set name value).set name value' = r.set name value' := by
  simp [set]

theorem Record.captureAll?_concat (r : Record) (spans : List (Text × Text)) (name value : Text) :
    r.captureAll? (spans ++ [(name, value)]) = (r.captureAll? spans).bind (·.capture? name value) := by
  rw [captureAll?, List.foldlM_append]
  simp [captureAll?]

namespace Extractor

open Piece

variable {pending : Option Text} {ps : List Piece} {s rest : Text} {spans : List (Text × Text)}

theorem Passes.append (h : Passes ps s spans rest) (t : Text) : Passes ps (s ++ t) spans (rest ++ t) := by
  induction h with
  | nil => exact .nil
  | literal hfirst _ ih =>
    rw [List.append_assoc]
    exact .literal hfirst ih
  | slot hfirst _ ih =>
    rw [List.append_assoc]
    exact .slot hfirst ih

theorem Matches.exists_passes (h : Matches pending ps s spans) :
    ∃ front found rest, Passes front s found rest ∧ ∃ last : Option Text,
      awaiting pending ps = front ++ last.toList.map .slot ∧
        spans = found ++ last.toList.map (·, rest) := by
  induction h with
  | @done s => exact ⟨[], [], s, .nil, none, rfl, rfl⟩
  | @last name s => exact ⟨[], [], s, .nil, some name, rfl, rfl⟩
  | slot _ ih => exact ih
  | @skip l _ _ _ _ hfirst _ ih =>
    obtain ⟨front, found, rest, hpasses, last, hpieces, hspans⟩ := ih
    exact ⟨_, found, rest, .literal hfirst hpasses, last, congrArg (Piece.literal l :: ·) hpieces, hspans⟩
  | @close name l before _ _ _ hfirst _ ih =>
    obtain ⟨front, found, rest, hpasses, last, hpieces, hspans⟩ := ih
    exact ⟨_, _, rest, .slot hfirst hpasses, last,
      congrArg (Piece.slot name :: Piece.literal l :: ·) hpieces, congrArg ((name, before) :: ·) hspans⟩

theorem extract_append_of_literal {e : Extractor} {found : List (Text × Text)} {c : Record}
    (hpasses : Passes e.pieces s found rest) (hfound : Record.empty.captureAll? found = some c)
    (t : Text) : e.extract (s ++ t) = .mk c none :=
  (hpasses.append t).scan_eq hfound

theorem extract_append_of_slot {e : Extractor} {front : List Piece} {found : List (Text × Text)}
    {name : Text} {c : Record} (hpieces : e.pieces = front ++ [.slot name])
    (hpasses : Passes front s found rest) (hfound : Record.empty.captureAll? found = some c)
    (hnew : c.get? name = none) (t : Text) :
    e.extract (s ++ t) = .mk (c.set name (rest ++ t)) none := by
  rw [extract, hpieces, (hpasses.append t).scan_append hfound, scan, scan]
  exact Record.fill_some_eq_ok_iff.2 ⟨_, Record.capture?_of_get?_eq_none hnew _, rfl⟩

/-- Text that is added to one that was extracted from changes nothing if the last piece is a literal, and
goes to the last piece if that is a slot which stands nowhere else. -/
theorem extract_append {e : Extractor} {s : Text} {c : Record} (h : e.extract s = .mk c none)
    (t : Text) :
    ((∀ p ∈ e.pieces.getLast?, p.literal?.isSome) → e.extract (s ++ t) = .mk c none) ∧
      ∀ name, e.pieces.getLast? = some (.slot name) → e.slots.count name = 1 →
        ∃ value, c.get? name = some value ∧
          e.extract (s ++ t) = .mk (c.set name (value ++ t)) none := by
  obtain ⟨spans, hmatch, hspans⟩ := extract_eq_ok_iff.1 h
  obtain ⟨front, found, rest, hpasses, last, hpieces, rfl⟩ := hmatch.exists_passes
  rw [awaiting_none] at hpieces
  cases last with
  | none =>
    simp only [Option.toList_none, List.map_nil, List.append_nil] at hpieces hspans
    rw [← hpieces] at hpasses
    refine ⟨fun _ => extract_append_of_literal hpasses hspans t, fun name hlast => ?_⟩
    exact absurd (hpasses.getLast?_literal _ hlast) (by simp)
  | some name =>
    simp only [Option.toList_some, List.map_cons, List.map_nil] at hpieces hspans
    refine ⟨fun hlast => ?_, fun n hlast hcount => ?_⟩
    · exact absurd (hlast (.slot name) (by simp [hpieces])) (by simp)
    · obtain rfl : name = n := by simpa [hpieces] using hlast
      rw [Record.captureAll?_concat] at hspans
      obtain ⟨known, hknown, hcapture⟩ := Option.bind_eq_some_iff.1 hspans
      have hnames : found.map (·.1) ++ [name] = e.slots := by
        simpa [Extractor.slots] using hmatch.names
      have hnew : known.get? name = none := by
        rw [← Option.not_isSome_iff_eq_none, ← Record.has, Record.has_captureAll?_iff hknown]
        intro hmem
        have hpos := List.count_pos_iff.2 hmem
        rw [← hnames, List.count_append, List.count_singleton_self] at hcount
        omega
      obtain rfl := Record.eq_set_of_capture? hcapture
      refine ⟨rest, by simp, ?_⟩
      rw [extract_append_of_slot hpieces hpasses hknown hnew t, Record.set_set]

theorem extract_append_literals_again :
    let e := (compile "[%a%]".toList .text).1
    let e' := (compile "%a%, %b%".toList .text).1
    let c := Record.empty.set ['a'] "abc".toList
    let c' := (Record.empty.set ['a'] ['x']).set ['b'] ['y']
    (e.extract "xx[abc]y".toList = .mk c none ∧ (∀ p ∈ e.pieces.getLast?, p.literal?.isSome) ∧
        e'.extract "x, y".toList = .mk c' none ∧ e'.pieces.getLast? = some (.slot ['b']) ∧
        e'.slots.count ['b'] = 1) ∧
      e.extract ("xx[abc]y".toList ++ "[d]".toList) = .mk c none ∧
      e'.extract ("x, y".toList ++ ", z".toList) = .mk (c'.set ['b'] "y, z".toList) none := by
  intro e e' c c'
  have hextract : e.extract "xx[abc]y".toList = .mk c none := by decide
  have hliteral : ∀ p ∈ e.pieces.getLast?, p.literal?.isSome := by decide
  have hextract' : e'.extract "x, y".toList = .mk c' none := by decide
  have hslot : e'.pieces.getLast? = some (.slot ['b']) := by decide
  have hcount : e'.slots.count ['b'] = 1 := by decide
  obtain ⟨value, hvalue, hmore⟩ := (extract_append hextract' ", z".toList).2 ['b'] hslot hcount
  obtain rfl : ['y'] = value := Option.some.inj hvalue
  exact ⟨⟨hextract, hliteral, hextract', hslot, hcount⟩,
    (extract_append hextract "[d]".toList).1 hliteral, hmore⟩

end Extractor

end RecordText
