import RecordText.Proofs.Text.Lines
import RecordText.Proofs.Text.LowerCase

namespace RecordText

def SingleLine (s : Text) : Prop := '\n' ∉ s

instance : DecidablePred SingleLine := fun s => inferInstanceAs (Decidable ('\n' ∉ s))

@[simp] theorem singleLine_nil : SingleLine [] := List.not_mem_nil

@[simp] theorem singleLine_cons_iff {c : Char} {s : Text} :
    SingleLine (c :: s) ↔ c ≠ '\n' ∧ SingleLine s := by
  simp [SingleLine, eq_comm]

@[simp] theorem singleLine_append_iff {s t : Text} :
    SingleLine (s ++ t) ↔ SingleLine s ∧ SingleLine t := by
  simp [SingleLine]

@[simp] theorem singleLine_flatten_iff {parts : List Text} :
    SingleLine parts.flatten ↔ ∀ s ∈ parts, SingleLine s := by
  simp [SingleLine]

namespace SingleLine

theorem of_subset {s t : Text} (h : SingleLine t) (hst : s ⊆ t) : SingleLine s :=
  fun hmem => h (hst hmem)

theorem flatMap {s : Text} (h : SingleLine s) {f : Char → Text}
    (hf : ∀ c ≠ '\n', SingleLine (f c)) : SingleLine (s.flatMap f) := by
  intro hmem
  obtain ⟨c, hc, hmem⟩ := List.mem_flatMap.1 hmem
  exact hf c (fun heq => h (heq ▸ hc)) hmem

theorem intercalate {parts : List Text} (h : ∀ s ∈ parts, SingleLine s) {c : Char} (hc : c ≠ '\n') :
    SingleLine ([c].intercalate parts) := by
  intro hmem
  obtain heq | ⟨s, hs, hmem⟩ := Text.eq_or_mem_of_mem_intercalate hmem
  · exact hc heq.symm
  · exact h s hs hmem

theorem stripStart {s : Text} (h : SingleLine s) (p : Char → Bool) : SingleLine (s.stripStart p) :=
  h.of_subset (List.dropWhile_sublist p).subset

theorem stripEnd {s : Text} (h : SingleLine s) (p : Char → Bool) : SingleLine (s.stripEnd p) := by
  refine h.of_subset fun c hc => ?_
  simpa using (List.dropWhile_sublist p).subset (List.mem_reverse.1 hc)

theorem strip {s : Text} (h : SingleLine s) (p : Char → Bool) : SingleLine (s.strip p) :=
  (h.stripStart p).stripEnd p

end SingleLine

theorem singleLine_ofNat (n : Nat) : SingleLine (Text.ofNat n) := by
  intro hmem
  exact absurd (Nat.isDigit_of_mem_toDigits (by decide) (by decide) hmem) (by decide)

structure AvoidsLineFeed (expansions : List (Nat × List Nat)) (runs : List CaseRun) : Prop where
  expansion : ∀ x ∈ expansions, ∀ n ∈ x.2, n ≠ 10
  run : ∀ r ∈ runs, 10 < r.image

theorem avoidsLineFeed_lower : AvoidsLineFeed lowerExpansions CaseRun.lower where
  expansion := by decide +kernel
  run := by decide +kernel

theorem avoidsLineFeed_upper : AvoidsLineFeed upperExpansions CaseRun.upper where
  expansion := by decide +kernel
  run := by decide +kernel

theorem AvoidsLineFeed.notMem_imageCodes {expansions : List (Nat × List Nat)} {runs : List CaseRun}
    (h : AvoidsLineFeed expansions runs) : 10 ∉ imageCodes expansions runs := by
  simp only [imageCodes, List.mem_cons, List.mem_append, List.mem_flatMap, List.mem_map, not_or]
  refine ⟨by decide, ?_, ?_⟩
  · rintro ⟨x, hx, hmem⟩
    exact h.expansion x hx 10 hmem rfl
  · rintro ⟨x, ⟨r, hr, hmem⟩, himage⟩
    obtain ⟨k, -, rfl⟩ := List.mem_map.1 hmem
    have hrun := h.run r hr
    omega

theorem AvoidsLineFeed.singleLine_mapCase {expansions : List (Nat × List Nat)} {runs : List CaseRun}
    (h : AvoidsLineFeed expansions runs) {c : Char} (hc : c ≠ '\n') :
    SingleLine (mapCase expansions runs c) := by
  obtain hself | ⟨-, himages⟩ := mapCase_eq_self_or expansions runs c
  · simpa [hself] using hc
  · exact fun hfeed => h.notMem_imageCodes (himages _ hfeed)

namespace SingleLine

theorem upper {s : Text} (h : SingleLine s) : SingleLine s.upper :=
  h.flatMap fun _ => avoidsLineFeed_upper.singleLine_mapCase

theorem lower {s : Text} (h : SingleLine s) : SingleLine s.lower := by
  rw [Text.lower]
  -- The text in front only tells which small sigma stands for a capital one.
  generalize ([] : Text) = before
  induction s generalizing before with
  | nil => exact h
  | cons c s ih =>
    obtain ⟨hc, hs⟩ := singleLine_cons_iff.1 h
    refine singleLine_append_iff.2 ⟨?_, ih hs _⟩
    split
    · split <;> decide
    · exact avoidsLineFeed_lower.singleLine_mapCase hc

theorem capitalize {s : Text} (h : SingleLine s) : SingleLine s.capitalize := by
  cases s with
  | nil => exact h
  | cons c s =>
    obtain ⟨hc, hs⟩ := singleLine_cons_iff.1 h
    exact singleLine_append_iff.2 ⟨avoidsLineFeed_upper.singleLine_mapCase hc, hs⟩

end SingleLine

end RecordText
