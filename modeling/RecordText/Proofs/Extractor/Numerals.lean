import RecordText.Proofs.Extractor.Agreement
import RecordText.Proofs.Extractor.Captures
import RecordText.Proofs.Text.Numbers

namespace RecordText

theorem Caseless.of_isAsciiDigit {c : Char} (h : isAsciiDigit c) : Caseless c := by
  apply of_mem_codes
  have hbounds := toNat_of_isAsciiDigit h
  simp only [caselessCodes, List.mem_append, List.mem_cons, List.mem_range'_1, List.not_mem_nil]
  omega

namespace Text

/-- Decimal digits, at least one, with underscores anywhere among them, and blanks behind them. -/
def IsNumeral (s : Text) : Prop := ∃ body blanks, s = body ++ blanks ∧
  (∀ c ∈ body, isAsciiDigit c ∨ c = '_') ∧ (∃ c ∈ body, isAsciiDigit c) ∧ ∀ c ∈ blanks, isBlank c

def number (s : Text) : Nat := toNat (s.filter isAsciiDigit)

variable {s : Text}

theorem lower_eq_of_caseless (h : ∀ c ∈ s, Caseless c) : s.lower = s := by
  refine lower_eq_self fun c hc => ?_
  rw [← lowerAs_of_ne (h c hc).ne_sigma true, (h c hc).lowerAs_eq]

theorem ne_of_isBlank {c d : Char} (hc : isBlank c) (hd : isBlank d = false) : c ≠ d := by
  rintro rfl
  rw [hd] at hc
  contradiction

theorem IsNumeral.lower_eq (h : IsNumeral s) : s.lower = s := by
  obtain ⟨body, blanks, rfl, hbody, -, hblanks⟩ := h
  apply lower_eq_of_caseless
  refine List.forall_mem_append.2 ⟨fun c hc => ?_, fun c hc => .of_isBlank (hblanks c hc)⟩
  obtain hdigit | rfl := hbody c hc
  · exact .of_isAsciiDigit hdigit
  · exact .underscore

theorem IsNumeral.exists_filter_eq (h : IsNumeral s) :
    ∃ blanks, s.filter (· != '_') = s.filter isAsciiDigit ++ blanks ∧ ∀ c ∈ blanks, isBlank c := by
  obtain ⟨body, blanks, rfl, hbody, -, hblanks⟩ := h
  refine ⟨blanks, ?_, hblanks⟩
  have hdigits : body.filter (· != '_') = body.filter isAsciiDigit := by
    refine List.filter_congr fun c hc => ?_
    obtain hdigit | rfl := hbody c hc
    · rw [hdigit, bne_iff_ne]
      rintro rfl
      contradiction
    · rfl
  have hkept : blanks.filter (· != '_') = blanks :=
    List.filter_eq_self.2 fun c hc => bne_iff_ne.2 (ne_of_isBlank (hblanks c hc) (by decide))
  have hdropped : blanks.filter isAsciiDigit = [] :=
    List.filter_eq_nil_iff.2 fun c hc hdigit =>
      ne_of_isBlank (hblanks c hc) (not_isBlank_of_isAsciiDigit hdigit) rfl
  rw [List.filter_append, List.filter_append, hdigits, hkept, hdropped, List.append_nil]

theorem IsNumeral.normalize_eq (h : IsNumeral s) :
    s.normalize = stripStart (· == '0') (s.filter isAsciiDigit) := by
  obtain ⟨blanks, hfilter, hblanks⟩ := h.exists_filter_eq
  have hzero : ∀ c ∈ blanks, (c == '0') = false := fun c hc =>
    beq_eq_false_iff_ne.2 (ne_of_isBlank (hblanks c hc) (by decide))
  rw [normalize, h.lower_eq, hfilter, stripStart_append_of_forall_neg hzero]
  refine strip_append_of_forall (fun c hc => ?_) hblanks
  exact not_isBlank_of_isAsciiDigit (List.mem_filter.1 ((stripStart_isSuffix _ _).subset hc)).2

theorem IsNumeral.normalize_eq_iff {t : Text} (hs : IsNumeral s) (ht : IsNumeral t) :
    s.normalize = t.normalize ↔ s.number = t.number := by
  rw [hs.normalize_eq, ht.normalize_eq]
  exact stripStart_zero_eq_iff (fun c hc => (List.mem_filter.1 hc).2) fun c hc => (List.mem_filter.1 hc).2

/-- Numerals agree exactly if they write the same number, so that a slot which has one refuses another
exactly if it writes another number. -/
theorem normalize_eq_iff_number {s t : Text} (hs : IsNumeral s) (ht : IsNumeral t) :
    (s.normalize = t.normalize ↔ s.number = t.number) ∧
      ∀ (e : Extractor) (text name : Text) (spans more : List (Text × Text)) (known : Record),
        Extractor.Matches none e.pieces text (spans ++ (name, t) :: more) →
        Record.empty.captureAll? spans = some known → known.get? name = some s →
        (e.extract text = .mk known (some (.conflict t name)) ↔ s.number ≠ t.number) := by
  have hiff := hs.normalize_eq_iff ht
  refine ⟨hiff, fun e text name spans more known hmatch hspans hfound => ?_⟩
  rw [Extractor.extract, hmatch.scan_eq_captureEach, Record.captureEach_append hspans, Ne, ← hiff]
  constructor
  · intro h hagrees
    exact Record.captureEach_ne_conflict hfound hagrees _ (congrArg Extraction.failure h)
  · intro hne
    rw [Record.captureEach, Record.capture?_eq_none_iff.2 ⟨s, hfound, hne⟩]

theorem normalize_eq_iff_number_refused :
    let s : Text := "0_00_ ".toList
    let t : Text := "_0_0_7".toList
    let e := (Extractor.compile "%a%,%b%;%a%".toList .text).1
    let known := (Record.empty.set ['a'] s).set ['b'] ['x']
    (IsNumeral s ∧ IsNumeral t) ∧ s.normalize ≠ t.normalize ∧
      e.extract "0_00_ ,x;_0_0_7".toList = .mk known (some (.conflict t ['a'])) := by
  intro s t e known
  have hs : IsNumeral s :=
    ⟨"0_00_".toList, [' '], rfl, by simp [isAsciiDigit], ⟨'0', by simp, rfl⟩, by simp [isBlank]⟩
  have ht : IsNumeral t := ⟨t, [], rfl, by simp [t, isAsciiDigit], ⟨'0', by simp [t], rfl⟩, by simp⟩
  have hnumber : s.number ≠ t.number := by decide
  have hfirst : Text.FirstBehind [','] s := by decide
  have hsecond : Text.FirstBehind [';'] ['x'] := by decide
  have hmatch : Extractor.Matches none e.pieces "0_00_ ,x;_0_0_7".toList
      ([(['a'], s), (['b'], ['x'])] ++ [(['a'], t)]) :=
    .slot (.close hfirst (.slot (.close hsecond (.slot .last))))
  obtain ⟨hagrees, hextract⟩ := normalize_eq_iff_number hs ht
  exact ⟨⟨hs, ht⟩, fun h => hnumber (hagrees.1 h),
    (hextract e _ ['a'] _ _ known hmatch (by decide) (by decide)).2 hnumber⟩

end Text

end RecordText
