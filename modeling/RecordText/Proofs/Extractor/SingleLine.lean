import RecordText.Proofs.Extractor.Batches
import RecordText.Proofs.Extractor.Paths
import RecordText.Proofs.Pattern.SingleLine

namespace RecordText

def Failure.quotes : Failure → List Text
  | notFound literal rest => [literal, rest]
  | conflict value slot => [value, slot]
  | inseparable first second => [first, second]

theorem Failure.singleLine_message : (f : Failure) → (∀ t ∈ f.quotes, SingleLine t) →
    SingleLine f.message
  | notFound literal rest, h => by
    have hparts : SingleLine ("Unable to find ".toList ++ literal ++ " in ".toList ++ rest) := by
      simp only [singleLine_append_iff]
      exact ⟨⟨⟨by decide, h literal (by simp [quotes])⟩, by decide⟩, h rest (by simp [quotes])⟩
    exact hparts
  | conflict value slot, h => by
    have hparts : SingleLine ("Unable to apply <".toList ++ value ++ "> to ".toList ++ slot) := by
      simp only [singleLine_append_iff]
      exact ⟨⟨⟨by decide, h value (by simp [quotes])⟩, by decide⟩, h slot (by simp [quotes])⟩
    exact hparts
  | inseparable first second, h => by
    have hparts : SingleLine ("Unable to separate ".toList ++ first ++ " from ".toList ++ second
        ++ ": no text between them".toList) := by
      simp only [singleLine_append_iff]
      exact ⟨⟨⟨⟨by decide, h first (by simp [quotes])⟩, by decide⟩, h second (by simp [quotes])⟩,
        by decide⟩
    exact hparts

structure Extraction.SingleLines (x : Extraction) : Prop where
  captures : x.captures.SingleLines
  message : ∀ m ∈ x.message?, SingleLine m

theorem Extraction.SingleLines.of_failure {r : Record} (hr : r.SingleLines) {f : Failure}
    (hf : ∀ t ∈ f.quotes, SingleLine t) : SingleLines (.mk r (some f)) where
  captures := hr
  message m hm := by
    cases hm
    exact f.singleLine_message hf

namespace Record

variable {r : Record}

theorem SingleLines.set (hr : r.SingleLines) (name : Text) {value : Text} (hvalue : SingleLine value) :
    (r.set name value).SingleLines := by
  intro n v hv
  rw [get?_set] at hv
  split at hv
  · cases hv
    exact hvalue
  · exact hr n v hv

theorem SingleLines.value (hr : r.SingleLines) (name : Text) : SingleLine (r.value name) := by
  rw [Record.value]
  cases hvalue : r.get? name with
  | none => exact singleLine_nil
  | some v => exact hr name v hvalue

theorem SingleLines.fill (hr : r.SingleLines) {pending : Option Text} {value : Text}
    {next : Record → Extraction} (hpending : ∀ name ∈ pending, SingleLine name)
    (hvalue : SingleLine value) (hnext : ∀ r : Record, r.SingleLines → (next r).SingleLines) :
    (r.fill pending value next).SingleLines := by
  cases pending with
  | none => exact hnext r hr
  | some name =>
    rw [Record.fill]
    split
    · next known hknown =>
      rw [eq_set_of_capture? hknown]
      exact hnext _ (hr.set name hvalue)
    · apply Extraction.SingleLines.of_failure hr
      simpa [Failure.quotes] using ⟨hvalue, hpending name rfl⟩

end Record

namespace Piece

def text : Piece → Text
  | literal s => s
  | slot name => name

@[simp] theorem text_literal (s : Text) : (literal s).text = s := rfl

@[simp] theorem text_slot (name : Text) : (slot name).text = name := rfl

end Piece

namespace Extractor

theorem Spells.singleLine {p : Text} {ps : List Piece} (h : Spells p ps) (hp : SingleLine p) :
    ∀ q ∈ ps, SingleLine q.text := by
  induction h with
  | nil => simp
  | text _ _ _ _ ih =>
    obtain ⟨hs, hrest⟩ := singleLine_append_iff.1 hp
    exact List.forall_mem_cons.2 ⟨hs, ih hrest⟩
  | percent _ _ _ ih =>
    obtain ⟨hs, hrest⟩ := singleLine_append_iff.1 (singleLine_cons_iff.1 (singleLine_cons_iff.1 hp).2).2
    exact List.forall_mem_cons.2 ⟨singleLine_cons_iff.2 ⟨by decide, hs⟩, ih hrest⟩
  | slot _ _ _ ih =>
    obtain ⟨hname, hrest⟩ := singleLine_append_iff.1 (singleLine_cons_iff.1 hp).2
    exact List.forall_mem_cons.2 ⟨hname, ih (singleLine_cons_iff.1 hrest).2⟩

theorem singleLines_scan {known : Record} {pending : Option Text} {ps : List Piece} {s : Text}
    (hknown : known.SingleLines) (hpending : ∀ name ∈ pending, SingleLine name)
    (hps : ∀ p ∈ ps, SingleLine p.text) (hs : SingleLine s) :
    (scan known pending ps s).SingleLines := by
  fun_induction scan known pending ps s with
  | case1 known pending s =>
    exact hknown.fill hpending hs fun _ hr => ⟨hr, by simp [Extraction.message?]⟩
  | case2 known pending l ps s hcut =>
    apply Extraction.SingleLines.of_failure hknown
    simpa [Failure.quotes] using ⟨hps _ List.mem_cons_self, hs⟩
  | case3 known pending l ps s value rest hcut ih =>
    rw [Text.cut?_eq_some hcut] at hs
    obtain ⟨hfront, hrest⟩ := singleLine_append_iff.1 hs
    obtain ⟨-, hps⟩ := List.forall_mem_cons.1 hps
    refine hknown.fill hpending (singleLine_append_iff.1 hfront).1 fun known hknown => ?_
    exact ih known hknown (by simp) hps hrest
  | case4 known name ps s ih =>
    obtain ⟨hname, hps⟩ := List.forall_mem_cons.1 hps
    exact ih hknown (by simpa using hname) hps hs
  | case5 known name ps s first =>
    apply Extraction.SingleLines.of_failure hknown
    simpa [Failure.quotes] using ⟨hpending first rfl, hps _ List.mem_cons_self⟩

theorem singleLine_map_toSlash {s : Text} (hs : SingleLine s) : SingleLine (s.map toSlash) := by
  intro hmem
  obtain ⟨c, hc, hfeed⟩ := List.mem_map.1 hmem
  rw [toSlash] at hfeed
  split at hfeed
  · exact absurd hfeed (by decide)
  · exact hs (hfeed ▸ hc)

theorem singleLine_pathTail {path : Text} (hpath : SingleLine path) (k : Nat) :
    SingleLine (pathTail k path) := by
  obtain ⟨names, file, hparts, -⟩ := Text.exists_splitOn_eq_concat (path.map toSlash) '/'
  have hname : ∀ d ∈ names ++ [file], SingleLine d := by
    intro d hd
    rw [← hparts] at hd
    exact (singleLine_map_toSlash hpath).of_subset fun c hc => (mem_of_mem_splitOn hd hc).1
  obtain ⟨hnames, hfile⟩ := List.forall_mem_append.1 hname
  rw [pathTail_of_splitOn k hparts]
  refine SingleLine.intercalate (List.forall_mem_append.2 ⟨fun d hd => ?_, ?_⟩) (by decide)
  · exact hnames d (List.mem_of_mem_drop (List.mem_of_mem_filter hd))
  · have hstem := (hfile file (List.mem_singleton_self file)).of_subset
      (stripExtension_isPrefix file).subset
    simpa using hstem

section

variable {p : Text} {m : Mode} (hclosed : (compile p m).2 = none) (hp : SingleLine p)
include hclosed hp

theorem singleLines_extractFrom {s : Text} (hs : SingleLine s) :
    ((compile p m).1.extractFrom s).SingleLines := by
  have hpieces := (spells_compile hclosed).singleLine hp
  have hextract {t : Text} (ht : SingleLine t) : ((compile p m).1.extract t).SingleLines :=
    singleLines_scan (by simp [Record.SingleLines]) (by simp) hpieces ht
  rw [extractFrom]
  split
  · exact hextract (singleLine_pathTail hs _)
  · exact hextract hs

theorem singleLine_slots : ∀ name ∈ (compile p m).1.slots, SingleLine name := by
  intro name hname
  obtain ⟨q, hq, hslot⟩ := List.mem_filterMap.1 hname
  have htext := (spells_compile hclosed).singleLine hp q hq
  cases q with
  | literal l => contradiction
  | slot n =>
    cases hslot
    exact htext

end

end Extractor

end RecordText
