import RecordText.Library.Builtin
import RecordText.Proofs.Text.SingleLine

namespace RecordText

namespace Regex

-- Wherever the matches are, characters of the text stay or go, and the replacement comes in whole.

theorem replaceFirstAt_subset (replacement : Text) (ls : List (Option Nat)) (s : Text) :
    replaceFirstAt replacement ls s ⊆ replacement ++ s := by
  fun_induction replaceFirstAt replacement ls s with
  | case1 s n ls => exact List.append_subset.2 ⟨by simp, fun c hc => by simp [List.mem_of_mem_drop hc]⟩
  | case2 ls c s ih => grind
  | case3 => simp

theorem replaceEachAt_subset (replacement : Text) (skip : Nat) (adjacent : Bool)
    (ls : List (Option Nat)) (s : Text) :
    replaceEachAt replacement skip adjacent ls s ⊆ replacement ++ s := by
  fun_induction replaceEachAt replacement skip adjacent ls s <;> grind

end Regex

theorem SingleLine.replaceFirst {replacement s : Text} (hreplacement : SingleLine replacement)
    (hs : SingleLine s) (r : Regex) : SingleLine (r.replaceFirst replacement s) :=
  of_subset (singleLine_append_iff.2 ⟨hreplacement, hs⟩) (Regex.replaceFirstAt_subset _ _ s)

theorem SingleLine.replaceEach {replacement s : Text} (hreplacement : SingleLine replacement)
    (hs : SingleLine s) (r : Regex) : SingleLine (r.replaceEach replacement s) :=
  of_subset (singleLine_append_iff.2 ⟨hreplacement, hs⟩) (Regex.replaceEachAt_subset _ _ _ _ s)

def KeepsLine (f : Function) : Prop := ∀ args, (∀ a ∈ args, SingleLine a) → SingleLine (f args)

namespace Builtin

theorem singleLine_missingArguments : SingleLine missingArguments := by decide

theorem keepsLine_of_cons {f : Function} (hnil : f [] = missingArguments)
    (hcons : ∀ s args, SingleLine s → (∀ a ∈ args, SingleLine a) → SingleLine (f (s :: args))) :
    KeepsLine f := by
  intro args hargs
  cases args with
  | nil =>
    rw [hnil]
    exact singleLine_missingArguments
  | cons s args =>
    obtain ⟨hs, hargs⟩ := List.forall_mem_cons.1 hargs
    exact hcons s args hs hargs

theorem keepsLine_capitalize : KeepsLine capitalize :=
  keepsLine_of_cons rfl fun _ _ hs _ => hs.capitalize

theorem keepsLine_lower : KeepsLine lower := keepsLine_of_cons rfl fun _ _ hs _ => hs.lower

theorem keepsLine_upper : KeepsLine upper := keepsLine_of_cons rfl fun _ _ hs _ => hs.upper

theorem singleLine_strip {s : Text} (hs : SingleLine s) (ends : Ends) (p : Char → Bool) :
    SingleLine (ends.strip p s) := by
  cases ends with
  | left => exact hs.stripStart p
  | right => exact hs.stripEnd p
  | both => exact hs.strip p

theorem singleLine_trimSet {set s : Text} (hset : SingleLine set) (hs : SingleLine s) (ends : Ends) :
    SingleLine (trimSet ends set s) := by
  rw [trimSet]
  split
  · exact singleLine_nil.replaceEach hs _
  · exact singleLine_append_iff.2 ⟨by decide, hset⟩

theorem keepsLine_trimAt (ends : Ends) : KeepsLine (trimAt ends) := by
  refine keepsLine_of_cons rfl fun s args hs hargs => ?_
  match args with
  | [] => exact singleLine_strip hs ends isBlank
  | [] :: _ => exact singleLine_strip hs ends isBlank
  | (c :: set) :: _ => exact singleLine_trimSet (hargs _ List.mem_cons_self) hs ends

theorem singleLine_zfillTo {s : Text} (hs : SingleLine s) (width : Text) :
    SingleLine (zfillTo width s) := by
  rw [zfillTo]
  split
  · exact hs
  · next n _ =>
    split
    · simp only [singleLine_append_iff]
      exact ⟨⟨by decide, singleLine_ofNat n⟩, by decide⟩
    · refine singleLine_append_iff.2 ⟨fun hmem => ?_, hs⟩
      exact absurd (List.eq_of_mem_replicate hmem) (by decide)

theorem keepsLine_zfill : KeepsLine zfill := by
  refine keepsLine_of_cons rfl fun s args hs _ => ?_
  match args with
  | [] => exact singleLine_zfillTo hs ['3']
  | width :: _ => exact singleLine_zfillTo hs width

theorem singleLine_replaceMatch {pattern replacement s : Text} (hpattern : SingleLine pattern)
    (hreplacement : SingleLine replacement) (hs : SingleLine s) :
    SingleLine (replaceMatch pattern replacement s) := by
  rw [replaceMatch]
  split
  · exact hreplacement.replaceFirst hs _
  · exact singleLine_append_iff.2 ⟨by decide, hpattern⟩

theorem keepsLine_replace : KeepsLine replace := by
  refine keepsLine_of_cons rfl fun s args hs hargs => ?_
  match args with
  | [] => exact singleLine_missingArguments
  | [pattern] => exact singleLine_replaceMatch (hargs _ List.mem_cons_self) singleLine_nil hs
  | pattern :: replacement :: _ =>
    exact singleLine_replaceMatch (hargs _ List.mem_cons_self) (hargs _ (by simp)) hs

end Builtin

namespace Library

def KeepsLines (l : Library) : Prop := ∀ name f, l.get? name = some f → KeepsLine f

theorem KeepsLines.insert {l : Library} (hl : l.KeepsLines) (name : Text) {f : Function}
    (hf : KeepsLine f) : (l.insert name f).KeepsLines := by
  intro n g hg
  rw [get?_insert] at hg
  split at hg
  · cases hg
    exact hf
  · exact hl n g hg

theorem keepsLines_empty : empty.KeepsLines := by
  intro name f hf
  contradiction

theorem KeepsLines.insertAll {l : Library} (hl : l.KeepsLines) {fs : List (Text × Function)}
    (h : ∀ x ∈ fs, KeepsLine x.2) : (l.insertAll fs).KeepsLines :=
  List.foldlRecOn fs _ hl fun _ hl x hx => hl.insert x.1 (h x hx)

theorem keepsLines_builtin : builtin.KeepsLines := by
  apply keepsLines_empty.insertAll
  simp only [List.forall_mem_cons]
  exact ⟨Builtin.keepsLine_capitalize, Builtin.keepsLine_lower, Builtin.keepsLine_trimAt .left,
    Builtin.keepsLine_replace, Builtin.keepsLine_trimAt .right, Builtin.keepsLine_trimAt .both,
    Builtin.keepsLine_upper, Builtin.keepsLine_zfill, by simp⟩

end Library

end RecordText
