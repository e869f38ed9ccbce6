import RecordText.Pattern.Display
import RecordText.Proofs.Library.SingleLine
import RecordText.Proofs.Pattern.Reading

namespace RecordText

def Record.SingleLines (r : Record) : Prop := ∀ name value, r.get? name = some value → SingleLine value

namespace Node

mutual

def texts : Node → List Text
  | .text s => [s]
  | .attribute _ => []
  | .call _ args => textsOfAll args
  | .list nodes => textsOfAll nodes

def textsOfAll : List Node → List Text
  | [] => []
  | n :: ns => n.texts ++ textsOfAll ns

end

theorem mem_textsOfAll_iff {ns : List Node} {t : Text} :
    t ∈ textsOfAll ns ↔ ∃ n ∈ ns, t ∈ n.texts := by
  induction ns with
  | nil => simp [textsOfAll]
  | cons n ns ih => simp [textsOfAll, ih]

-- The induction is on the tree: the values of the arguments are single lines before the function of the
-- call gets them.
mutual

theorem singleLine_evaluate {l : Library} {r : Record} (hl : l.KeepsLines) (hr : r.SingleLines) :
    (n : Node) → (∀ t ∈ n.texts, SingleLine t) → ∀ {s}, n.evaluate l r = .ok s → SingleLine s
  | .text t, hn, s, h => by
    cases h
    exact hn t (by simp [texts])
  | .attribute name, _, s, h => by
    cases h
    cases hvalue : r.get? name with
    | none => exact singleLine_nil
    | some value => exact hr name value hvalue
  | .call name args, hn, s, h => by
    rw [evaluate] at h
    split at h
    · contradiction
    · next f hf =>
      obtain ⟨values, hvalues, rfl⟩ := map_eq_ok_iff.1 h
      exact hl name f hf values (singleLine_evaluateAll hl hr args hn hvalues)
  | .list nodes, hn, s, h => by
    obtain ⟨values, hvalues, rfl⟩ := map_eq_ok_iff.1 h
    exact singleLine_flatten_iff.2 (singleLine_evaluateAll hl hr nodes hn hvalues)

theorem singleLine_evaluateAll {l : Library} {r : Record} (hl : l.KeepsLines) (hr : r.SingleLines) :
    (ns : List Node) → (∀ t ∈ textsOfAll ns, SingleLine t) → ∀ {ss},
      evaluateAll l r ns = .ok ss → ∀ s ∈ ss, SingleLine s
  | [], _, ss, h => by
    cases h
    simp
  | n :: ns, hns, ss, h => by
    obtain ⟨hn, hns⟩ := List.forall_mem_append.1 hns
    obtain ⟨s, hs, h⟩ := bind_eq_ok_iff.1 h
    obtain ⟨rest, hrest, heq⟩ := bind_eq_ok_iff.1 h
    cases heq
    refine List.forall_mem_cons.2 ⟨singleLine_evaluate hl hr n hn hs, ?_⟩
    exact singleLine_evaluateAll hl hr ns hns hrest

end

theorem singleLine_kind : (e : EvalError) → SingleLine e.kind
  | .missingFunction _ => (by decide : SingleLine "MissingFunction".toList)
  | .missingAttribute _ => (by decide : SingleLine "MissingAttribute".toList)
  | .syntaxError _ => (by decide : SingleLine "SyntaxError".toList)
  | .invalidState => (by decide : SingleLine "InvalidState".toList)

theorem singleLine_display {l : Library} {r : Record} (hl : l.KeepsLines) (hr : r.SingleLines)
    {n : Node} (hn : ∀ t ∈ n.texts, SingleLine t) : SingleLine (n.display l r) := by
  rw [display]
  split
  · next s hs => exact singleLine_evaluate hl hr n hn hs
  · next e _ => exact singleLine_kind e

theorem singleLine_of_splitArguments {s r : Text} {args : List Text}
    (h : splitArguments s = some (args, r)) (hs : SingleLine s) :
    (∀ a ∈ args, SingleLine a) ∧ SingleLine r := by
  obtain ⟨ps, -, -, rfl, rfl⟩ := splitArguments_eq_some_iff.1 h
  obtain ⟨hps, hr⟩ := singleLine_append_iff.1 hs
  refine ⟨fun a ha => ?_, (singleLine_cons_iff.1 hr).2⟩
  exact hps.of_subset (Text.infix_intercalate (mem_of_mem_dropEmptyLast ha)).subset

theorem Reads.singleLine {levels : Nat} {s : Text} {nodes : List Node} (h : Reads levels s nodes)
    (hs : SingleLine s) : ∀ t ∈ textsOfAll nodes, SingleLine t := by
  induction h with
  | nil => simp [textsOfAll]
  | percent _ ih =>
    have hrest := (singleLine_cons_iff.1 (singleLine_cons_iff.1 hs).2).2
    exact List.forall_mem_cons.2 ⟨by decide, ih hrest⟩
  | attr _ _ _ ih =>
    obtain ⟨-, hrest⟩ := singleLine_append_iff.1 (singleLine_cons_iff.1 hs).2
    exact ih (singleLine_cons_iff.1 hrest).2
  | text _ _ _ _ ih =>
    obtain ⟨ht, hrest⟩ := singleLine_append_iff.1 hs
    exact List.forall_mem_cons.2 ⟨ht, ih hrest⟩
  | @call levels name u rest nodes args _ hcut _ _ iha ih =>
    obtain ⟨-, hu⟩ := singleLine_append_iff.1 (singleLine_cons_iff.1 hs).2
    obtain ⟨hargs, hrest⟩ := singleLine_of_splitArguments hcut (singleLine_cons_iff.1 hu).2
    refine List.forall_mem_append.2 ⟨fun t ht => ?_, ih hrest⟩
    obtain ⟨n, hn, ht⟩ := mem_textsOfAll_iff.1 ht
    obtain ⟨a, ha, rfl⟩ := List.mem_map.1 hn
    exact iha a ha (hargs a.1 (List.mem_map_of_mem ha)) t ht

theorem singleLine_of_parse {s : Text} {n : Node} (h : parse s = .ok n) (hs : SingleLine s) :
    ∀ t ∈ n.texts, SingleLine t := by
  obtain ⟨nodes, rfl, hreads⟩ := parse_eq_ok_iff.1 h
  exact hreads.singleLine hs

end Node

end RecordText
