import RecordText.Proofs.Text.Cut

namespace RecordText.Text

/-- The words stand in the text in this order, none reaching into the next, and `rest` is what comes
behind the last of them. -/
inductive Places : List Text → Text → Text → Prop
  | nil {s} : Places [] s s
  | cons {word words before after rest} : Places words after rest →
      Places (word :: words) (before ++ word ++ after) rest

def Placeable (words : List Text) (s : Text) : Prop := ∃ rest, Places words s rest

/-- The words are placed as far to the left as they can be: no other places leave more. -/
structure Leftmost (words : List Text) (s rest : Text) : Prop where
  places : Places words s rest
  longest : ∀ other, Places words s other → other <:+ rest

/-- `word` is the first of the words that has no place together with those before it, and `rest` is
what these leave when they are placed leftmost. -/
def FirstMiss (words : List Text) (s word rest : Text) : Prop :=
  ∃ before after, words = before ++ word :: after ∧ Leftmost before s rest ∧
    ¬ Placeable (before ++ [word]) s

namespace Places

theorem suffix {words : List Text} {s rest : Text} (h : Places words s rest) : rest <:+ s := by
  induction h with
  | nil => exact List.suffix_refl _
  | @cons word _ before _ _ _ ih => exact ih.trans (List.suffix_append (before ++ word) _)

theorem split {us vs : List Text} {s rest : Text} (h : Places (us ++ vs) s rest) :
    ∃ mid, Places us s mid ∧ Places vs mid rest := by
  induction us generalizing s with
  | nil => exact ⟨s, .nil, h⟩
  | cons u us ih =>
    cases h with
    | cons h =>
      obtain ⟨mid, hu, hv⟩ := ih h
      exact ⟨mid, .cons hu, hv⟩

theorem isInfix_of_mem {words : List Text} {s rest word : Text} (h : Places words s rest)
    (hmem : word ∈ words) : word <:+: s := by
  induction h with
  | nil => contradiction
  | @cons w _ before after _ _ ih =>
    cases List.mem_cons.1 hmem with
    | inl heq =>
      rw [heq]
      exact List.infix_append before w after
    | inr hmem => exact (ih hmem).trans (List.suffix_append (before ++ w) after).isInfix

theorem exists_of_suffix {words : List Text} {s t rest : Text} (h : Places words s rest)
    (hs : s <:+ t) : ∃ other, Places words t other ∧ rest <:+ other := by
  cases h with
  | nil => exact ⟨t, .nil, hs⟩
  | @cons word words before after rest h =>
    obtain ⟨u, rfl⟩ := hs
    refine ⟨rest, ?_, List.suffix_refl rest⟩
    rw [← List.append_assoc, ← List.append_assoc]
    exact .cons h

end Places

theorem Placeable.of_append {us vs : List Text} {s : Text} (h : Placeable (us ++ vs) s) :
    Placeable us s := by
  obtain ⟨rest, h⟩ := h
  obtain ⟨mid, hu, -⟩ := h.split
  exact ⟨mid, hu⟩

theorem cut?_eq_none_iff {word s : Text} : cut? word s = none ↔ ¬ word <:+: s := by
  constructor
  · rintro h ⟨before, after, rfl⟩
    induction before with
    | nil => cases word <;> cases after <;> simp [cut?] at h
    | cons c before ih =>
      apply ih
      simp only [List.cons_append, cut?] at h
      split at h
      · contradiction
      · simpa using h
  · intro h
    cases hcut : cut? word s with
    | none => rfl
    | some parts => exact absurd ⟨parts.1, parts.2, (cut?_eq_some hcut).symm⟩ h

theorem FirstBehind.suffix {word before after u v : Text} (h : FirstBehind word before)
    (heq : before ++ word ++ after = u ++ word ++ v) : v <:+ after := by
  have hle : before.length ≤ u.length := by
    apply Nat.le_of_not_lt
    intro hlt
    have hprefix : u ++ word <+: before ++ word := by
      apply List.prefix_of_prefix_length_le (List.prefix_append (u ++ word) v)
      · rw [← heq]
        exact List.prefix_append (before ++ word) after
      · simp only [List.length_append]
        omega
    obtain ⟨t, ht⟩ := hprefix
    exact Nat.not_le_of_lt hlt (h u t ht.symm)
  have hlen : v.length ≤ after.length := by
    have := congrArg List.length heq
    simp only [List.length_append] at this
    omega
  apply List.suffix_of_suffix_length_le (List.suffix_append (u ++ word) v) ?_ hlen
  rw [← heq]
  exact List.suffix_append (before ++ word) after

-- Another place of the first word leaves less, and what fits into less fits into more.
theorem Places.tail {word before after rest : Text} {words : List Text}
    (h : Places (word :: words) (before ++ word ++ after) rest) (hfirst : FirstBehind word before) :
    ∃ other, Places words after other ∧ rest <:+ other := by
  generalize heq : before ++ word ++ after = s at h
  cases h with
  | cons hwords => exact hwords.exists_of_suffix (hfirst.suffix heq)

namespace Leftmost

theorem nil (s : Text) : Leftmost [] s s where
  places := .nil
  longest _ h := h.suffix

theorem cons {word before after rest : Text} {words : List Text} (hfirst : FirstBehind word before)
    (h : Leftmost words after rest) : Leftmost (word :: words) (before ++ word ++ after) rest where
  places := .cons h.places
  longest other hother := by
    obtain ⟨more, hmore, hsuffix⟩ := hother.tail hfirst
    exact hsuffix.trans (h.longest more hmore)

theorem not_placeable_append {words : List Text} {s rest word : Text} (h : Leftmost words s rest)
    (hword : ¬ word <:+: rest) : ¬ Placeable (words ++ [word]) s := by
  rintro ⟨_, hplaces⟩
  obtain ⟨mid, hmid, hlast⟩ := hplaces.split
  exact hword ((hlast.isInfix_of_mem (List.mem_singleton_self word)).trans
    (h.longest mid hmid).isInfix)

end Leftmost

namespace FirstMiss

theorem head {word s : Text} (words : List Text) (h : ¬ word <:+: s) :
    FirstMiss (word :: words) s word s :=
  ⟨[], words, rfl, .nil s, (Leftmost.nil s).not_placeable_append h⟩

theorem cons {word before after miss rest : Text} {words : List Text}
    (hfirst : FirstBehind word before) (h : FirstMiss words after miss rest) :
    FirstMiss (word :: words) (before ++ word ++ after) miss rest := by
  obtain ⟨front, back, rfl, hleft, hmiss⟩ := h
  refine ⟨word :: front, back, rfl, hleft.cons hfirst, ?_⟩
  rintro ⟨other, hother⟩
  obtain ⟨more, hmore, -⟩ := Places.tail hother hfirst
  exact hmiss ⟨more, hmore⟩

theorem not_placeable {words : List Text} {s word rest : Text} (h : FirstMiss words s word rest) :
    ¬ Placeable words s := by
  obtain ⟨before, after, rfl, -, hmiss⟩ := h
  intro hplaceable
  rw [List.append_cons] at hplaceable
  exact hmiss hplaceable.of_append

end FirstMiss

end RecordText.Text
