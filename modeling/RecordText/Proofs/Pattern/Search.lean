import RecordText.Pattern.Display
import RecordText.Proofs.Pattern.Reading
import RecordText.Proofs.Text.Placement
import RecordText.Proofs.Text.WordEnds

namespace RecordText

namespace Text

theorem contains_iff {s word : Text} : s.contains word ↔ word <:+: s := by
  rw [contains, Option.isSome_iff_ne_none, Ne, cut?_eq_none_iff, not_not]

theorem lower_infix_of_wordEnds {front s back : Text}
    (h : wordEnds front.reverse back s = wordEnds [] [] s) : s.lower <:+: (front ++ s ++ back).lower := by
  rw [lower_append_append, h, ← lower_eq]
  exact List.infix_append _ _ _

theorem wordEnds_of_settled {s : Text} (h : ∀ u v, s = u ++ 'Σ' :: v → settled u.reverse v)
    (front back : Text) : wordEnds front.reverse back s = wordEnds [] [] s := by
  refine wordEnds_eq_iff.2 fun u v heq => ?_
  rw [endsWord_append (h u v heq), List.append_nil, List.append_nil]

-- A sigma hides what lies behind it from the sigmas before it, and the other way round.

theorem wordEnds_before_sigma (before s t t' : Text) :
    wordEnds before ('Σ' :: t) s = wordEnds before ('Σ' :: t') s :=
  wordEnds_eq_iff.2 fun _ _ _ => endsWord_congr rfl (by simp)

theorem wordEnds_after_sigma (after s t t' : Text) :
    wordEnds ('Σ' :: t) after s = wordEnds ('Σ' :: t') after s :=
  wordEnds_eq_iff.2 fun _ _ _ => endsWord_congr (by simp) rfl

theorem lowerWith_wordEnds_sigma (before after u v : Text) :
    lowerWith (wordEnds before after (u ++ 'Σ' :: v)) (u ++ 'Σ' :: v) =
      lowerWith (wordEnds before ('Σ' :: (v ++ after)) u) u ++
        smallSigma (endsWord (u.reverse ++ before) (v ++ after)) ::
          lowerWith (wordEnds ('Σ' :: (u.reverse ++ before)) after v) v := by
  rw [wordEnds_append, lowerWith_append_of_length (length_wordEnds _ _ _)]
  rfl

-- The text on the left has one sigma of the form more than the text on the right.
theorem not_infix_of_smallSigma (final : Bool) {front back : Text} (hfront : smallSigma final ∉ front)
    (hback : smallSigma final ∉ back) (s t : Text) :
    ¬ s ++ smallSigma final :: t <:+: front ++ (s ++ smallSigma (!final) :: t) ++ back := by
  intro h
  have hcount := h.sublist.count_le (smallSigma final)
  have hne : smallSigma (!final) ≠ smallSigma final := by cases final <;> decide
  simp only [List.count_append, List.count_cons_self, List.count_cons_of_ne hne,
    List.count_eq_zero_of_not_mem hfront, List.count_eq_zero_of_not_mem hback] at hcount
  omega

/-- If one sigma has another form inside, and the text around it has none of the form it has alone, the whole
is not there in lower case. -/
theorem not_lower_infix_of_endsWord {front back u v : Text} (final : Bool)
    (hu : wordEnds front.reverse ('Σ' :: (v ++ back)) u = wordEnds [] ('Σ' :: v) u)
    (hv : wordEnds ('Σ' :: (u.reverse ++ front.reverse)) back v = wordEnds ('Σ' :: u.reverse) [] v)
    (halone : endsWord u.reverse v = final)
    (hinside : endsWord (u.reverse ++ front.reverse) (v ++ back) = !final)
    (hfront : ∀ ends, smallSigma final ∉ lowerWith ends front)
    (hback : ∀ ends, smallSigma final ∉ lowerWith ends back) :
    ¬ (u ++ 'Σ' :: v).lower <:+: (front ++ (u ++ 'Σ' :: v) ++ back).lower := by
  rw [lower_append_append, lower_eq, lowerWith_wordEnds_sigma, lowerWith_wordEnds_sigma, hu, hv, hinside]
  simp only [List.append_nil, halone]
  exact not_infix_of_smallSigma final (hfront _) (hback _) _ _

theorem firstCased?_letter : firstCased? ['a'] = some true :=
  firstCased?_cons (by decide +kernel) (by decide +kernel) []

theorem smallSigma_notMem_letter (final : Bool) (ends : List Bool) :
    smallSigma final ∉ lowerWith ends ['a'] := by
  rw [lowerWith, lowerAs_of_ne (by decide), lowerWith_nil]
  cases final <;> decide

theorem not_lower_infix_behind {u v : Text} (hu : firstCased? u = none)
    (hv : firstCased? v ≠ some true) :
    ¬ (u ++ 'Σ' :: v).lower <:+: lower (['a'] ++ (u ++ 'Σ' :: v) ++ []) := by
  have hsigma := sigma_notMem_of_firstCased? hu
  have hreverse : firstCased? u.reverse = none := by simpa [firstCased?_eq_none_iff] using hu
  refine not_lower_infix_of_endsWord false ?_ (wordEnds_after_sigma _ _ _ _) ?_ ?_
    (smallSigma_notMem_letter false) (by simp)
  · rw [wordEnds_of_sigma_notMem _ _ _ hsigma, wordEnds_of_sigma_notMem _ _ _ hsigma]
  · simp [← Bool.not_eq_true, endsWord_iff, hreverse]
  · exact endsWord_iff.2 ⟨by simp [hreverse, firstCased?_letter], by simpa using hv⟩

theorem not_lower_infix_before {u v : Text} (hu : firstCased? u.reverse = some true)
    (hv : firstCased? v = none) :
    ¬ (u ++ 'Σ' :: v).lower <:+: lower ([] ++ (u ++ 'Σ' :: v) ++ ['a']) := by
  have hsigma := sigma_notMem_of_firstCased? hv
  refine not_lower_infix_of_endsWord true (wordEnds_before_sigma _ _ _ _) ?_ ?_ ?_ (by simp)
    (smallSigma_notMem_letter true)
  · rw [wordEnds_of_sigma_notMem _ _ _ hsigma, wordEnds_of_sigma_notMem _ _ _ hsigma]
  · exact endsWord_iff.2 ⟨hu, by simp [hv]⟩
  · simp [← Bool.not_eq_true, endsWord_iff, hv, firstCased?_letter]

theorem exists_not_lower_infix {u v : Text} (h : ¬ settled u.reverse v) :
    ∃ front back, ¬ (u ++ 'Σ' :: v).lower <:+: (front ++ (u ++ 'Σ' :: v) ++ back).lower := by
  rw [settled] at h
  cases hu : firstCased? u.reverse with
  | none =>
    refine ⟨['a'], [], not_lower_infix_behind ?_ ?_⟩
    · simpa [firstCased?_eq_none_iff] using hu
    · simp_all
  | some cased =>
    refine ⟨[], ['a'], not_lower_infix_before ?_ ?_⟩ <;> cases hv : firstCased? v <;> simp_all

end Text

namespace Node

theorem compile_attribute (name : Text) (hne : name ≠ []) (hname : '%' ∉ name) :
    compile ('%' :: (name ++ ['%'])) = .ok (.list [.attribute name]) := by
  have hparse : parse ('%' :: (name ++ ['%'])) = .ok (.list [.attribute name]) :=
    parse_eq_ok_iff.2 ⟨_, rfl, .attr hne hname .nil⟩
  rw [compile, hparse]
  rfl

theorem display_attribute (l : Library) (r : Record) (name : Text) :
    (Node.list [.attribute name]).display l r = (r.get? name).getD [] := by
  have hvalue : (Node.list [.attribute name]).evaluate l r = .ok ((r.get? name).getD []) := by
    rw [evaluate, evaluateAll, evaluateAll, evaluate]
    simp [pure, Except.pure, bind, Except.bind, Functor.map, Except.map]
  rw [display, hvalue]

theorem exists_display_eq (s : Text) : ∃ p n r, compile p = .ok n ∧ ∀ l, n.display l r = s :=
  ⟨_, _, .set .empty ['t'] s, compile_attribute ['t'] (by decide) (by decide), fun l => by
    rw [display_attribute, Record.get?_set, if_pos rfl, Option.getD_some]⟩

theorem isFound_iff {l : Library} {r : Record} {term : Text} {n : Node} :
    n.isFound l r term ↔ term.lower <:+: (n.display l r).lower := Text.contains_iff

/-- A term is found where it stands in what a pattern shows if its sigmas have the same forms there as in
the term alone, and wherever it stands exactly if each of its sigmas settles its form within the term. -/
theorem isFound_of_infix_iff (term : Text) :
    (∀ n l r front back, display l r n = front ++ term ++ back →
      Text.wordEnds front.reverse back term = Text.wordEnds [] [] term → n.isFound l r term) ∧
    ((∀ p n l r, compile p = .ok n → term <:+: n.display l r → n.isFound l r term) ↔
      ∀ u v, term = u ++ 'Σ' :: v → Text.settled u.reverse v) := by
  have hfound n l r front back (h : display l r n = front ++ term ++ back)
      (hends : Text.wordEnds front.reverse back term = Text.wordEnds [] [] term) :
      n.isFound l r term := by
    rw [isFound_iff, h]
    exact Text.lower_infix_of_wordEnds hends
  refine ⟨hfound, ?_, ?_⟩
  · rintro h u v rfl
    by_contra hsettled
    obtain ⟨front, back, hnot⟩ := Text.exists_not_lower_infix hsettled
    obtain ⟨p, n, r, hcompile, hdisplay⟩ := exists_display_eq (front ++ (u ++ 'Σ' :: v) ++ back)
    have hmatches := h p n .empty r hcompile (by rw [hdisplay]; exact List.infix_append _ _ _)
    rw [isFound_iff, hdisplay] at hmatches
    exact hnot hmatches
  · rintro h p n l r - ⟨front, back, heq⟩
    exact hfound n l r front back heq.symm (Text.wordEnds_of_settled h front back)

theorem isFound_of_infix_iff_sigma :
    let n := Node.list [.attribute ['t']]
    let r := Record.empty.set ['t'] "ΑΣΑΣ.".toList
    (display .empty r n = "ΑΣ".toList ++ "ΑΣ".toList ++ ['.'] ∧
        Text.wordEnds "ΑΣ".toList.reverse ['.'] "ΑΣ".toList = Text.wordEnds [] [] "ΑΣ".toList ∧
        compile "%t%".toList = .ok n ∧ "ΣΑ".toList <:+: display .empty r n ∧
        ∀ u v, "ΣΑ".toList = u ++ 'Σ' :: v → Text.settled u.reverse v) ∧
      n.isFound .empty r "ΑΣ".toList ∧ n.isFound .empty r "ΣΑ".toList := by
  intro n r
  have hdisplay : display .empty r n = "ΑΣΑΣ.".toList := display_attribute _ _ _
  have hends : Text.wordEnds "ΑΣ".toList.reverse ['.'] "ΑΣ".toList =
      Text.wordEnds [] [] "ΑΣ".toList := by decide +kernel
  have hcompile : compile "%t%".toList = .ok n := compile_attribute ['t'] (by decide) (by decide)
  have hinfix : "ΣΑ".toList <:+: display .empty r n := by
    rw [hdisplay]
    exact ⟨['Α'], "Σ.".toList, rfl⟩
  have hsettled : ∀ u v, "ΣΑ".toList = u ++ 'Σ' :: v → Text.settled u.reverse v :=
    Text.forall_sigma_cons.2 ⟨fun _ => by decide +kernel,
      Text.forall_sigma_cons.2 ⟨fun h => absurd h (by decide), fun u v h => by simp at h⟩⟩
  exact ⟨⟨hdisplay, hends, hcompile, hinfix, hsettled⟩,
    (isFound_of_infix_iff _).1 n .empty r _ _ hdisplay hends,
    (isFound_of_infix_iff _).2.2 hsettled _ n .empty r hcompile hinfix⟩

/-- The term ends with a final sigma, which is not final in front of another letter. -/
theorem not_forall_isFound_of_infix : ¬ ∀ p n l r term,
    compile p = .ok n → term <:+: n.display l r → n.isFound l r term := by
  intro h
  have hdisplay : display .empty (Record.empty.set ['t'] "ΑΣΑ".toList) (.list [.attribute ['t']]) =
      "ΑΣΑ".toList := display_attribute _ _ _
  have hfound := h _ _ .empty (Record.empty.set ['t'] "ΑΣΑ".toList) "ΑΣ".toList
    (compile_attribute ['t'] (by decide) (by decide)) (by rw [hdisplay]; exact ⟨[], ['Α'], rfl⟩)
  rw [isFound, hdisplay] at hfound
  exact absurd hfound (by decide +kernel)

end Node

end RecordText
