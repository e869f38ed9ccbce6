import RecordText.Command.Run
import RecordText.Proofs.Except
import RecordText.Proofs.Extractor.Batches

namespace RecordText

namespace Extraction

/-- `Printed slots x display line`: `line` is printed for `x`. It is what the display pattern shows, if
there is one and the row succeeds, and else a cell for each capture, in the order of the slots, with
the failure behind them. -/
inductive Printed (slots : List Text) (x : Extraction) : Option Node → Text → Prop
  | shown {node} : x.isOk → Printed slots x (some node) (node.display .builtin x.captures)
  | cells {display names} : display = none ∨ ¬ x.isOk →
      Enumerates slots (fun n => x.captures.has n) names →
      Printed slots x display
        (['\t'].intercalate
          (names.map (fun n => n ++ '=' :: x.captures.value n) ++ x.message?.toList))

theorem cells_eq (columns : List Text) (x : Extraction) :
    x.cells columns =
      (columns.filter (x.captures.has ·)).map (fun n => n ++ '=' :: x.captures.value n)
        ++ x.message?.toList := by
  rw [cells]
  congr 1
  induction columns with
  | nil => rfl
  | cons c columns ih =>
    cases hc : x.captures.get? c with
    | none => simp [Record.has, hc, ih]
    | some value => simp [Record.has, Record.value, hc, ih]

theorem line_filter {columns : List Text} {p : Text → Bool} {x : Extraction}
    (h : ∀ n, x.captures.has n → p n) (display : Option Node) :
    x.line (columns.filter p) display = x.line columns display := by
  have hcells : x.cells (columns.filter p) = x.cells columns := by
    rw [cells_eq, cells_eq, List.filter_filter]
    congr 3
    funext n
    have := h n
    grind
  simp only [line, row, hcells]

theorem printed_line {slots : List Text} {x : Extraction} (h : ∀ n, x.captures.has n → n ∈ slots)
    (display : Option Node) : Printed slots x display (x.line slots.eraseDups display) := by
  have hcells : display = none ∨ ¬ x.isOk → Printed slots x display (x.row slots.eraseDups) := by
    intro hdisplay
    rw [row, cells_eq]
    exact .cells hdisplay (enumerates_filter_eraseDups h)
  cases display with
  | none => exact hcells (.inl rfl)
  | some node =>
    rw [line]
    split
    · next hok => exact .shown hok
    · next hok => exact hcells (.inr hok)

end Extraction

theorem unlines_append (xs ys : List Text) : unlines (xs ++ ys) = unlines xs ++ unlines ys :=
  List.flatMap_append

namespace Batch

theorem code_outcome_eq_zero_iff (display : Option Node) (b : Batch) :
    (b.outcome display).code = 0 ↔ ∀ x ∈ b.rows, x.isOk := by
  simp [outcome]

end Batch

namespace Extractor

theorem output_extractLines (e : Extractor) (s : Text) (display : Option Node) :
    ((e.extractLines s).outcome display).output =
      unlines ((e.extractLines s).rows.map (Extraction.line e.slotNames display)) := by
  simp only [Batch.outcome]
  congr 1
  apply List.map_congr_left
  intro x hx
  -- What one row captured is a column of the batch, so that the filter takes nothing from this row.
  exact Extraction.line_filter (fun n hn => List.any_eq_true.2 ⟨x, hx, hn⟩) display

end Extractor

namespace Command

theorem fromUTF8?_toUTF8 (s : String) : String.fromUTF8? s.toUTF8 = some s :=
  dif_pos s.isValidUTF8

theorem eq_toUTF8_of_fromUTF8? {input : ByteArray} {s : String}
    (h : String.fromUTF8? input = some s) : input = s.toUTF8 := by
  rw [String.fromUTF8?] at h
  split at h
  · cases h
    rfl
  · contradiction

section

variable {p : Text} {m : Mode} {display : Option Text}

theorem readDisplay_eq_ok_iff {d : Text} {n : Node} :
    readDisplay d = .ok n ↔ Node.parse d = .ok n := by
  rw [readDisplay]
  cases Node.parse d <;> simp [Except.mapError]

theorem mapM_readDisplay_eq_ok_iff {node : Option Node} :
    display.mapM readDisplay = .ok node ↔ display.mapM Node.parse = .ok node := by
  cases display with
  | none => simp [pure, Except.pure]
  | some d => simp only [Option.mapM_some, map_eq_ok_iff, readDisplay_eq_ok_iff]

theorem runExtract_toUTF8 {node : Option Node} (hclosed : (Extractor.compile p m).2 = none)
    (hdisplay : display.mapM Node.parse = .ok node) (s : String) :
    runExtract p m display s.toUTF8 =
      ((Extractor.compile p m).1.extractLines s.toList).outcome node := by
  have hcompile : Extractor.compile p m = ((Extractor.compile p m).1, none) := by rw [← hclosed]
  rw [runExtract, hcompile, mapM_readDisplay_eq_ok_iff.2 hdisplay, fromUTF8?_toUTF8]

theorem runExtract_append {node : Option Node} (hclosed : (Extractor.compile p m).2 = none)
    (hdisplay : display.mapM Node.parse = .ok node) {s : String}
    (hs : s.toList.getLast? ≠ some '\r') (t : String) :
    (runExtract p m display (s ++ "\n" ++ t).toUTF8).output =
        (runExtract p m display s.toUTF8).output ++ (runExtract p m display t.toUTF8).output ∧
      ((runExtract p m display (s ++ "\n" ++ t).toUTF8).code = 0 ↔
        (runExtract p m display s.toUTF8).code = 0 ∧
          (runExtract p m display t.toUTF8).code = 0) := by
  have hlist : (s ++ "\n" ++ t).toList = s.toList ++ '\n' :: t.toList := by simp
  have hrows := (Extractor.compile p m).1.rows_append hs t.toList
  simp only [runExtract_toUTF8 hclosed hdisplay, hlist]
  constructor
  · simp only [Extractor.output_extractLines, hrows, List.map_append, unlines_append]
  · simp only [Batch.code_outcome_eq_zero_iff, hrows, List.forall_mem_append]

theorem exists_printed_lines (e : Extractor) (s : Text) (node : Option Node) :
    ∃ lines, ((e.extractLines s).outcome node).output = unlines lines ∧
      (e.extractLines s).rows.Forall₂ (·.Printed e.slots node ·) lines := by
  refine ⟨_, e.output_extractLines s node, ?_⟩
  rw [List.forall₂_map_right_iff, List.forall₂_same]
  intro x hx
  obtain ⟨line, -, rfl⟩ := List.mem_map.1 hx
  exact Extraction.printed_line (fun n => Extractor.mem_slots_of_has_extractFrom) node

theorem runExtract_unreadable {input : ByteArray}
    (h : (Extractor.compile p m).2 ≠ none ∨ (∀ node, display.mapM Node.parse ≠ .ok node) ∨
      ∀ s : String, input ≠ s.toUTF8) :
    (runExtract p m display input).output = [] ∧ (runExtract p m display input).code = 1 := by
  rw [runExtract]
  split
  · exact ⟨rfl, rfl⟩
  · next e hcompile =>
    split
    · exact ⟨rfl, rfl⟩
    · next node hdisplay =>
      split
      · exact ⟨rfl, rfl⟩
      · next s hinput =>
        obtain h | h | h := h
        · exact absurd (congrArg Prod.snd hcompile) h
        · exact absurd (mapM_readDisplay_eq_ok_iff.1 hdisplay) (h node)
        · exact absurd (eq_toUTF8_of_fromUTF8? hinput) (h s)

end

/-- For two inputs with a line feed between them the command prints what it prints for the one and then
what it prints for the other, and it reports success if it does so for both. Each line that is not blank has
its row, and each row its line. If a pattern or the input cannot be read, nothing is printed. -/
theorem run_extract_append (p : Text) (m : Mode) (display : Option Text) :
    let c := extract p m display
    let e := (Extractor.compile p m).1
    (∀ node, (Extractor.compile p m).2 = none → display.mapM Node.parse = .ok node →
      (∀ s t : String, s.toList.getLast? ≠ some '\r' →
        (c.run (s ++ "\n" ++ t).toUTF8).output = (c.run s.toUTF8).output ++ (c.run t.toUTF8).output ∧
          ((c.run (s ++ "\n" ++ t).toUTF8).code = 0 ↔
            (c.run s.toUTF8).code = 0 ∧ (c.run t.toUTF8).code = 0)) ∧
      ∀ s : String,
        (e.extractLines s.toList).rows = ((Text.lines s.toList).filter (!·.isBlankLine)).map e.extractFrom ∧
          ∃ lines, (c.run s.toUTF8).output = unlines lines ∧
            (e.extractLines s.toList).rows.Forall₂ (·.Printed e.slots node ·) lines) ∧
    ∀ input, ((Extractor.compile p m).2 ≠ none ∨ (∀ node, display.mapM Node.parse ≠ .ok node) ∨
        ∀ s : String, input ≠ s.toUTF8) → (c.run input).output = [] ∧ (c.run input).code = 1 := by
  intro c e
  refine ⟨fun node hclosed hdisplay => ⟨?_, ?_⟩, fun _ => runExtract_unreadable⟩
  · intro s t hs
    exact runExtract_append hclosed hdisplay hs t
  · intro s
    have houtput : c.run s.toUTF8 = (e.extractLines s.toList).outcome node :=
      runExtract_toUTF8 hclosed hdisplay s
    rw [houtput]
    exact ⟨e.rows_extractLines s.toList, exists_printed_lines e s.toList node⟩

theorem run_extract_append_partial_row :
    let p := "%a%: %b% (%c%)".toList
    let display := some "%c%".toList
    let node := some (Node.list [.attribute "c".toList])
    let c := extract p .text display
    let e := (Extractor.compile p .text).1
    let s := "x: y (z\r\n "
    let t := "\nx: y (z)\n"
    let bytes := ByteArray.mk #[0x78, 0xff]
    ((Extractor.compile p .text).2 = none ∧ display.mapM Node.parse = .ok node ∧
        s.toList.getLast? ≠ some '\r' ∧ ∀ s : String, bytes ≠ s.toUTF8) ∧
      (c.run (s ++ "\n" ++ t).toUTF8).output = (c.run s.toUTF8).output ++ (c.run t.toUTF8).output ∧
      ((c.run (s ++ "\n" ++ t).toUTF8).code = 0 ↔
        (c.run s.toUTF8).code = 0 ∧ (c.run t.toUTF8).code = 0) ∧
      (e.extractLines s.toList).rows = ((Text.lines s.toList).filter (!·.isBlankLine)).map e.extractFrom ∧
      (∃ lines, (c.run s.toUTF8).output = unlines lines ∧
        (e.extractLines s.toList).rows.Forall₂ (·.Printed e.slots node ·) lines) ∧
      (c.run bytes).output = [] ∧ (c.run bytes).code = 1 := by
  intro p display node c e s t bytes
  have hclosed : (Extractor.compile p .text).2 = none := by decide
  have hparse : Node.parse "%c%".toList = .ok (.list [.attribute "c".toList]) := by cbv
  have hdisplay : display.mapM Node.parse = .ok node := congrArg (some <$> ·) hparse
  have hs : s.toList.getLast? ≠ some '\r' := by decide
  have hbytes : ∀ s : String, bytes ≠ s.toUTF8 := by
    intro s h
    have hvalid : bytes.IsValidUTF8 := h ▸ s.isValidUTF8
    exact absurd hvalid (by decide)
  obtain ⟨hread, hunreadable⟩ := run_extract_append p .text display
  obtain ⟨hlaw, hlines⟩ := hread node hclosed hdisplay
  exact ⟨⟨hclosed, hdisplay, hs, hbytes⟩, (hlaw s t hs).1, (hlaw s t hs).2, (hlines s).1, (hlines s).2,
    hunreadable bytes (.inr (.inr hbytes))⟩

end Command

end RecordText
