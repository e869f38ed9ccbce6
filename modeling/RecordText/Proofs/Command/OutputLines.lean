import RecordText.Proofs.Command.Extraction
import RecordText.Proofs.Extractor.SingleLine

namespace RecordText

theorem count_unlines {lines : List Text} (h : ∀ s ∈ lines, SingleLine s) :
    (unlines lines).count '\n' = lines.length := by
  induction lines with
  | nil => rfl
  | cons s lines ih =>
    obtain ⟨hs, hlines⟩ := List.forall_mem_cons.1 h
    have hcons : unlines (s :: lines) = s ++ '\n' :: unlines lines := by simp [unlines]
    rw [hcons, List.count_append, List.count_eq_zero.2 hs, List.count_cons_self, ih hlines,
      Nat.zero_add, List.length_cons]

namespace Text

theorem singleLine_endLine {line : Text} (h : SingleLine line) : SingleLine (endLine line) := by
  rw [endLine]
  split
  · exact h.of_subset (List.dropLast_subset line)
  · exact h

theorem singleLine_of_mem_lines {s line : Text} (h : line ∈ s.lines) : SingleLine line := by
  obtain ⟨parts, last, hsplit, -⟩ := exists_splitOn_eq_concat s '\n'
  have hparts : ∀ part ∈ parts ++ [last], SingleLine part := by
    intro part hpart hfeed
    exact (Extractor.mem_of_mem_splitOn (hsplit ▸ hpart) hfeed).2 rfl
  obtain ⟨hparts, hlast⟩ := List.forall_mem_append.1 hparts
  rw [lines_eq_of_splitOn hsplit] at h
  cases List.mem_append.1 h with
  | inl h =>
    obtain ⟨part, hpart, rfl⟩ := List.mem_map.1 h
    exact singleLine_endLine (hparts part hpart)
  | inr h => exact hlast line (List.mem_of_mem_filter h)

theorem lines_of_singleLine {s : Text} (hs : SingleLine s) (hne : s ≠ []) : s.lines = [s] := by
  have hsplit := List.splitOn_intercalate '\n' (List.forall_mem_singleton.2 hs) (List.cons_ne_nil s [])
  rw [List.intercalate_singleton, ← List.nil_append [s]] at hsplit
  rw [lines_eq_of_splitOn hsplit]
  simpa using hne

end Text

theorem Extraction.Printed.singleLine {slots : List Text} {x : Extraction} {node : Option Node}
    {out : Text} (h : x.Printed slots node out) (hslots : ∀ name ∈ slots, SingleLine name)
    (hnames : ∀ name, x.captures.has name → name ∈ slots) (hx : x.SingleLines)
    (hnode : ∀ n ∈ node, ∀ t ∈ n.texts, SingleLine t) : SingleLine out := by
  cases h with
  | @shown n _ =>
    exact Node.singleLine_display Library.keepsLines_builtin hx.captures (hnode n rfl)
  | @cells _ names _ hen =>
    refine SingleLine.intercalate (List.forall_mem_append.2 ⟨fun cell hcell => ?_, ?_⟩) (by decide)
    · obtain ⟨name, hname, rfl⟩ := List.mem_map.1 hcell
      refine singleLine_append_iff.2 ⟨hslots name (hnames name ((hen.mem_iff name).1 hname)), ?_⟩
      exact singleLine_cons_iff.2 ⟨by decide, hx.captures.value name⟩
    · simpa using hx.message

namespace Command

theorem singleLine_of_mapM_parse {display : Option Text} {node : Option Node}
    (hdisplay : display.mapM Node.parse = .ok node) (hd : ∀ d ∈ display, SingleLine d) :
    ∀ n ∈ node, ∀ t ∈ n.texts, SingleLine t := by
  intro n hn
  cases display with
  | none =>
    cases hdisplay
    contradiction
  | some d =>
    obtain ⟨n', hparse, rfl⟩ := map_eq_ok_iff.1 hdisplay
    cases hn
    exact Node.singleLine_of_parse hparse (hd d rfl)

section

variable {p : Text} {m : Mode} {display : Option Text} {node : Option Node}
  (hclosed : (Extractor.compile p m).2 = none) (hdisplay : display.mapM Node.parse = .ok node)
include hclosed hdisplay

theorem output_runExtract (s : String) :
    ((extract p m display).run s.toUTF8).output =
      unlines (((Text.lines s.toList).filter (!·.isBlankLine)).map fun line =>
        ((Extractor.compile p m).1.extractFrom line).line (Extractor.compile p m).1.slotNames node) := by
  have houtput : (extract p m display).run s.toUTF8 =
      ((Extractor.compile p m).1.extractLines s.toList).outcome node :=
    runExtract_toUTF8 hclosed hdisplay s
  rw [houtput, Extractor.output_extractLines, Extractor.rows_extractLines, List.map_map]
  rfl

theorem output_runExtract_line {line : Text} (hline : SingleLine line) (hblank : ¬ line.isBlankLine) :
    ((extract p m display).run (String.ofList line).toUTF8).output =
      unlines [((Extractor.compile p m).1.extractFrom line).line
        (Extractor.compile p m).1.slotNames node] := by
  have hne : line ≠ [] := by
    rintro rfl
    exact hblank rfl
  rw [output_runExtract hclosed hdisplay, String.toList_ofList, Text.lines_of_singleLine hline hne,
    List.filter_cons_of_pos (by simpa using hblank)]
  rfl

end

/-- For each line of an input that is not blank the command prints one line, and it is the line that it
prints for an input of this line alone. -/
theorem run_extract_lines {p : Text} {m : Mode} {display : Option Text} {node : Option Node}
    (hclosed : (Extractor.compile p m).2 = none) (hdisplay : display.mapM Node.parse = .ok node)
    (hp : '\n' ∉ p) (hd : ∀ d ∈ display, '\n' ∉ d) (s : String) :
    let c := extract p m display
    let e := (Extractor.compile p m).1
    let lines := (Text.lines s.toList).filter (!·.isBlankLine)
    (c.run s.toUTF8).output.count '\n' = lines.length ∧
      ∃ printed, (c.run s.toUTF8).output = unlines printed ∧
        lines.Forall₂ (fun line out => '\n' ∉ out ∧ (e.extractFrom line).Printed e.slots node out ∧
          (c.run (String.ofList line).toUTF8).output = unlines [out]) printed := by
  intro c e lines
  let printed := lines.map fun line => (e.extractFrom line).line e.slotNames node
  have houtput : (c.run s.toUTF8).output = unlines printed := output_runExtract hclosed hdisplay s
  have hline : ∀ line ∈ lines, SingleLine line := fun line hline =>
    Text.singleLine_of_mem_lines (List.mem_of_mem_filter hline)
  have hnames (line : Text) (name : Text) (h : (e.extractFrom line).captures.has name) :
      name ∈ e.slots := Extractor.mem_slots_of_has_extractFrom h
  have hprinted (line : Text) := Extraction.printed_line (hnames line) node
  have hsingle : ∀ line ∈ lines, SingleLine ((e.extractFrom line).line e.slotNames node) :=
    fun line hmem => (hprinted line).singleLine (Extractor.singleLine_slots hclosed hp) (hnames line)
      (Extractor.singleLines_extractFrom hclosed hp (hline line hmem))
      (singleLine_of_mapM_parse hdisplay hd)
  refine ⟨?_, printed, houtput, ?_⟩
  · rw [houtput, count_unlines (List.forall_mem_map.2 hsingle), List.length_map]
  · rw [List.forall₂_map_right_iff, List.forall₂_same]
    intro line hmem
    refine ⟨hsingle line hmem, hprinted line, ?_⟩
    exact output_runExtract_line hclosed hdisplay (hline line hmem) (by simpa using List.of_mem_filter hmem)

theorem run_extract_lines_nested_call :
    let p := "%k%=%v%".toList
    let display := some "$replace(%v%,$lower(%k%),$zfill(%k%))".toList
    let node := some (Node.list [.call "replace".toList [.list [.attribute ['v']],
      .list [.call "lower".toList [.list [.attribute ['k']]]],
      .list [.call "zfill".toList [.list [.attribute ['k']]]]]])
    let c := extract p .text display
    let e := (Extractor.compile p .text).1
    let s := "A=ba\r\n \n\nA: b"
    let lines := (Text.lines s.toList).filter (!·.isBlankLine)
    ((Extractor.compile p .text).2 = none ∧ display.mapM Node.parse = .ok node ∧ '\n' ∉ p ∧
        (∀ d ∈ display, '\n' ∉ d) ∧ lines.length = 2) ∧
      (c.run s.toUTF8).output.count '\n' = lines.length ∧
      ∃ printed, (c.run s.toUTF8).output = unlines printed ∧
        lines.Forall₂ (fun line out => '\n' ∉ out ∧ (e.extractFrom line).Printed e.slots node out ∧
          (c.run (String.ofList line).toUTF8).output = unlines [out]) printed := by
  intro p display node c e s lines
  have hclosed : (Extractor.compile p .text).2 = none := by decide
  have hparse : Node.parse "$replace(%v%,$lower(%k%),$zfill(%k%))".toList =
      .ok (.list [.call "replace".toList [.list [.attribute ['v']],
        .list [.call "lower".toList [.list [.attribute ['k']]]],
        .list [.call "zfill".toList [.list [.attribute ['k']]]]]]) := by cbv
  have hdisplay : display.mapM Node.parse = .ok node := congrArg (some <$> ·) hparse
  have hp : '\n' ∉ p := by decide
  have hd : ∀ d ∈ display, '\n' ∉ d := by decide
  exact ⟨⟨hclosed, hdisplay, hp, hd, by decide⟩, run_extract_lines hclosed hdisplay hp hd s⟩

end Command

end RecordText
