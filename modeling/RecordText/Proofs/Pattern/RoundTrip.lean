import RecordText.Proofs.Pattern.Canonical

namespace RecordText.Node

open Text

theorem isNameChar_of_mem {name : Text} (h : isName name) : ∀ c ∈ name, isNameChar c := by
  cases name with
  | nil => contradiction
  | cons c s =>
    have hcs : isAsciiLetter c ∧ ∀ d ∈ s, isNameChar d := by simpa [isName] using h
    simpa [isNameChar, hcs.1] using hcs.2

theorem nextDepth_of_isNameChar {c : Char} (h : isNameChar c) (depth : Nat) :
    nextDepth depth c = some depth := by
  refine nextDepth_eq_some_iff.2 ⟨?_, ?_⟩
  · have ho : c ≠ '(' := by
      rintro rfl
      exact absurd h (by decide)
    have hc : c ≠ ')' := by
      rintro rfl
      exact absurd h (by decide)
    simp [ho, hc]
  · rintro rfl
    exact absurd h (by decide)

theorem depthAfter_name {name : Text} (h : ∀ c ∈ name, isNameChar c) (depth : Nat) :
    depthAfter depth name = some depth := by
  induction name with
  | nil => rfl
  | cons c s ih =>
    rw [depthAfter_cons, nextDepth_of_isNameChar (h c (by simp))]
    exact ih fun d hd => h d (by simp [hd])

theorem depthAfter_call {name body : Text} (hname : isName name)
    (hbody : ∀ depth, depthAfter (depth + 1) body = some (depth + 1)) (s : Text) (depth : Nat) :
    depthAfter depth ('$' :: (name ++ '(' :: (body ++ ')' :: s))) = depthAfter depth s := by
  simp [nextDepth, depthAfter_name (isNameChar_of_mem hname), hbody]

theorem Reads.depthAfter_print {levels : Nat} {s : Text} {nodes : List Node}
    (h : Reads levels s nodes) (depth : Nat) :
    depthAfter depth (printEach nodes).flatten = depthAfter depth s := by
  induction h generalizing depth with
  | nil => rfl
  | percent _ ih => simp [printEach, print, nextDepth, ih]
  | attr _ _ _ ih => simp [printEach, print, nextDepth, ih]
  | text _ ht _ _ ih => simp [printEach, print_text_of_plain ht, ih]
  | @call _ name u s nodes args hname hcut _ _ iha ih =>
    have hraw := isArgument_of_splitArguments hcut
    have hprint : ∀ t ∈ printEach (args.map (.list ·.2)), IsArgument t := by
      rw [printEach_eq_map, List.map_map]
      refine List.forall_mem_map.2 fun a ha => isArgument_iff.2 ((iha a ha 0).trans ?_)
      exact isArgument_iff.1 (hraw a.1 (List.mem_map_of_mem ha))
    obtain ⟨ps, -, hps, rfl, -⟩ := splitArguments_eq_some_iff.1 hcut
    rw [flatten_printEach_call, depthAfter_call hname (depthAfter_joinArguments hprint),
      depthAfter_call hname (depthAfter_intercalate hps), ih]

theorem Reads.isArgument_print {levels : Nat} {s : Text} {nodes : List Node}
    (h : Reads levels s nodes) (hs : s.IsArgument) : IsArgument (print (.list nodes)) :=
  isArgument_iff.2 ((h.depthAfter_print 0).trans (isArgument_iff.1 hs))

theorem Reads.canonical {levels : Nat} {s : Text} {nodes : List Node} (h : Reads levels s nodes) :
    CanonicalNodes nodes := by
  induction h with
  | nil => exact .nil
  | percent _ ih => exact .percent ih
  | attr hne hname _ ih => exact .attr hne hname ih
  | text hne ht hs h ih => exact .text hne ht (h.head_text hs) ih
  | @call _ name u s nodes args hname hcut hargs _ iha ih =>
    have hmap : args.map (.list ·.2) = (args.map (·.2)).map list := by
      rw [List.map_map]
      rfl
    rw [hmap]
    refine .call hname (List.forall_mem_map.2 iha) (List.forall_mem_map.2 fun a ha => ?_) ih
    have hraw := isArgument_of_splitArguments hcut a.1 (List.mem_map_of_mem ha)
    exact (hargs a ha).isArgument_print hraw

theorem Reads.nesting_le {levels : Nat} {s : Text} {nodes : List Node} (h : Reads levels s nodes) :
    nestingOfAll nodes ≤ levels := by
  induction h with
  | nil => exact Nat.zero_le _
  | percent _ ih => simpa [nestingOfAll, nesting] using ih
  | attr _ _ _ ih => simpa [nestingOfAll, nesting] using ih
  | text _ _ _ _ ih => simpa [nestingOfAll, nesting] using ih
  | @call levels name u s nodes args hname hcut hargs _ iha ih =>
    have hall : nestingOfAll (args.map (.list ·.2)) ≤ levels :=
      nestingOfAll_le_iff.2 (List.forall_mem_map.2 iha)
    rw [nestingOfAll, nesting]
    omega

theorem Reads.print_eq {levels : Nat} {s : Text} {nodes : List Node} (h : Reads levels s nodes)
    (hcomma : ¬ [',', ')'] <:+: s) : (printEach nodes).flatten = s := by
  induction h with
  | nil => rfl
  | @percent _ s _ _ ih =>
    have hs : s <:+: '%' :: '%' :: s := (List.suffix_append ['%', '%'] s).isInfix
    simp [printEach, print, ih fun hi => hcomma (hi.trans hs)]
  | @attr _ name s _ _ _ _ ih =>
    have hs : s <:+: '%' :: (name ++ '%' :: s) := ⟨'%' :: (name ++ ['%']), [], by simp⟩
    simp [printEach, print, ih fun hi => hcomma (hi.trans hs)]
  | @text _ t s _ _ ht _ _ ih =>
    have hs : s <:+: t ++ s := (List.suffix_append t s).isInfix
    simp [printEach, print_text_of_plain ht, ih fun hi => hcomma (hi.trans hs)]
  | @call _ name u s _ args _ hcut _ _ iha ih =>
    obtain ⟨ps, -, -, rfl, hargs⟩ := splitArguments_eq_some_iff.1 hcut
    have hs : s <:+: '$' :: (name ++ '(' :: ([','].intercalate ps ++ ')' :: s)) :=
      ⟨'$' :: (name ++ '(' :: ([','].intercalate ps ++ [')'])), [], by simp⟩
    have hbody : [','].intercalate ps <:+:
        '$' :: (name ++ '(' :: ([','].intercalate ps ++ ')' :: s)) :=
      ⟨'$' :: (name ++ ['(']), ')' :: s, by simp⟩
    have hprint : ∀ a ∈ args, (printEach a.2).flatten = a.1 := by
      intro a ha
      have hmem : a.1 ∈ ps := mem_of_mem_dropEmptyLast (hargs ▸ List.mem_map_of_mem ha)
      exact iha a ha fun hi => hcomma ((hi.trans (infix_intercalate hmem)).trans hbody)
    have hmap : printEach (args.map (.list ·.2)) = args.map (·.1) := by
      rw [printEach_eq_map, List.map_map]
      exact List.map_congr_left hprint
    have hjoin : joinArguments (args.map (·.1)) = [','].intercalate ps := by
      rw [hargs]
      cases joinArguments_dropEmptyLast ps with
      | inl hjoin => exact hjoin
      | inr hlast =>
        obtain ⟨t, ht⟩ := hlast
        exact absurd ⟨'$' :: (name ++ '(' :: t), s, by simp [ht]⟩ hcomma
    rw [flatten_printEach_call, hmap, hjoin, ih fun hi => hcomma (hi.trans hs)]

/-- What is read is canonical, and nothing is lost but commas before a closing parenthesis. -/
theorem print_parse {s : Text} {n : Node} (h : parse s = .ok n) :
    n.Canonical ∧ n.nesting ≤ maxNesting ∧ parse n.print = .ok n ∧
      (¬ [',', ')'] <:+: s → n.print = s) := by
  obtain ⟨nodes, rfl, hr⟩ := parse_eq_ok_iff.1 h
  have hread := (parse_print_list hr.canonical).trans (if_pos hr.nesting_le)
  exact ⟨hr.canonical, hr.nesting_le, hread, hr.print_eq⟩

theorem print_parse_dropped_comma :
    parse "%a)%%%$f(,$g(%b%,),)".toList =
        .ok (.list [.attribute "a)".toList, .text ['%'],
          .call ['f'] [.list [], .list [.call ['g'] [.list [.attribute ['b']]]]]]) ∧
      parse "%a)%%%$f(,$g(%b%))".toList =
        .ok (.list [.attribute "a)".toList, .text ['%'],
          .call ['f'] [.list [], .list [.call ['g'] [.list [.attribute ['b']]]]]]) := by
  have h : parse "%a)%%%$f(,$g(%b%,),)".toList =
      .ok (.list [.attribute "a)".toList, .text ['%'],
        .call ['f'] [.list [], .list [.call ['g'] [.list [.attribute ['b']]]]]]) := by
    cbv
  exact ⟨h, (print_parse h).2.2.1⟩

end RecordText.Node
