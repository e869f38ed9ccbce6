import RecordText.Pattern.Evaluate
import RecordText.Proofs.Pattern.Reading

namespace RecordText.Node

/-- Puts a node in front of others. Two literal texts that meet are one, unless one of them is an
escaped percent sign. -/
def joinNode : Node → List Node → List Node
  | .text s, .text t :: ns =>
    if s = ['%'] ∨ t = ['%'] then .text s :: .text t :: ns else .text (s ++ t) :: ns
  | m, ns => m :: ns

def joinNodes : List Node → List Node → List Node
  | [], ns => ns
  | [m], ns => joinNode m ns
  | m :: ms, ns => m :: joinNodes ms ns

theorem joinNode_eq_cons {m : Node} {ns : List Node}
    (h : ∀ s t, m = .text s → ns.head? = some (.text t) → s = ['%'] ∨ t = ['%']) :
    joinNode m ns = m :: ns := by
  fun_cases joinNode m ns with
  | case1 => rfl
  | case2 s t ns hne => exact absurd (h s t rfl rfl) hne
  | case3 => rfl

theorem joinNodes_cons {m : Node} {ms : List Node} (h : ms ≠ [] ∨ ∀ s, m = .text s → s = ['%'])
    (ns : List Node) : joinNodes (m :: ms) ns = m :: joinNodes ms ns := by
  cases ms with
  | nil => exact joinNode_eq_cons fun s t hs _ => .inl (h.resolve_left (by simp) s hs)
  | cons => rfl

section

variable {levels : Nat}

theorem map_cons_joinNodes {m : Node} {ms : List Node}
    (h : ms ≠ [] ∨ ∀ s, m = .text s → s = ['%']) (x : Except PatternError (List Node)) :
    (m :: ·) <$> joinNodes ms <$> x = joinNodes (m :: ms) <$> x := by
  rw [Functor.map_map]
  exact congrArg (· <$> x) (funext fun ns => (joinNodes_cons h ns).symm)

theorem joinNode_text_of_plain {t u : Text} (ht : ∀ c ∈ t, isPlain c) (hu : ∀ c ∈ u, isPlain c)
    (ns : List Node) : joinNode (.text t) (.text u :: ns) = .text (t ++ u) :: ns := by
  rw [joinNode, if_neg]
  exact not_or.2 ⟨ne_percent_of_plain ht, ne_percent_of_plain hu⟩

theorem parseNodes_text_append {t : Text} (hne : t ≠ []) (ht : ∀ c ∈ t, isPlain c) (s : Text) :
    parseNodes (argumentReader levels) (t ++ s) =
      joinNode (.text t) <$> parseNodes (argumentReader levels) s := by
  -- The plain text goes on with `u`, which may be empty.
  obtain ⟨u, v, rfl, hu, hv⟩ := exists_plain_append s
  have htu : ∀ c ∈ t ++ u, isPlain c := List.forall_mem_append.2 ⟨ht, hu⟩
  rw [← List.append_assoc, parseNodes_plain_append (by simp [hne]) htu hv]
  by_cases hnil : u = []
  · subst hnil
    rw [List.append_nil, List.nil_append]
    refine map_congr_of_ok fun ns hns => (joinNode_eq_cons fun _ r _ hr => .inr ?_).symm
    exact (reads_of_parseNodes levels v ns hns).head_text hv r hr
  · rw [parseNodes_plain_append hnil hu hv, Functor.map_map]
    simp only [joinNode_text_of_plain ht hu]

theorem Reads.parseNodes_append {a : Text} {xs : List Node} (h : Reads levels a xs) (b : Text) :
    parseNodes (argumentReader levels) (a ++ b) =
      joinNodes xs <$> parseNodes (argumentReader levels) b := by
  induction h with
  | nil => exact (id_map _).symm
  | percent _ ih =>
    rw [← map_cons_joinNodes (by simp), ← ih]
    exact parseNodes_percent [] _ List.not_mem_nil
  | @attr _ name s _ hne hname _ ih =>
    rw [← map_cons_joinNodes (by simp), ← ih]
    simpa [hne] using parseNodes_percent name (s ++ b) hname
  | @text _ t s nodes hne ht hs h ih =>
    rw [List.append_assoc]
    cases s with
    | nil =>
      -- Only a literal text at the end goes on in what follows.
      obtain rfl := h.eq_nil_iff.2 rfl
      exact parseNodes_text_append hne ht b
    | cons c s =>
      have hnodes : nodes ≠ [] := mt h.eq_nil_iff.1 (by simp)
      rw [← map_cons_joinNodes (.inl hnodes), ← ih]
      exact parseNodes_plain_append hne ht hs
  | @call levels name u s nodes args hname hcut hargs _ _ ih =>
    have hread := mapM_parseWithin fun a ha => (hargs a ha).parseNodes_eq
    have hcall := parseNodes_call_succ hname (splitArguments_append hcut b) levels
    simp only [hread, ih, bind_pure_comp] at hcall
    rw [List.cons_append, List.append_assoc, List.cons_append, ← map_cons_joinNodes (by simp)]
    exact hcall

end

theorem parse_append_error {a b : Text} {n : Node} {e : PatternError} (ha : parse a = .ok n)
    (hb : parse b = .error e) : parse (a ++ b) = .error e := by
  obtain ⟨xs, -, h⟩ := parse_eq_ok_iff.1 ha
  rw [parse, parseWithin_eq, map_eq_error_iff] at hb ⊢
  rw [h.parseNodes_append, hb]
  rfl

theorem parse_append_ok {a b : Text} {xs ys : List Node} (ha : parse a = .ok (.list xs))
    (hb : parse b = .ok (.list ys)) : parse (a ++ b) = .ok (.list (joinNodes xs ys)) := by
  obtain ⟨_, heq, h⟩ := parse_eq_ok_iff.1 ha
  cases heq
  obtain ⟨_, heq, h'⟩ := parse_eq_ok_iff.1 hb
  cases heq
  rw [parse, parseWithin_eq, h.parseNodes_append, h'.parseNodes_eq]
  rfl

section

variable (l : Library) (r : Record)

theorem evaluate_list_cons (n : Node) (ns : List Node) :
    (list (n :: ns)).evaluate l r = do
      let s ← n.evaluate l r
      let t ← (list ns).evaluate l r
      return s ++ t := by
  rw [evaluate, evaluateAll, evaluate]
  cases n.evaluate l r with
  | error => rfl
  | ok s => cases evaluateAll l r ns <;> rfl

theorem evaluate_list_text (s : Text) (ns : List Node) :
    (list (.text s :: ns)).evaluate l r = (s ++ ·) <$> (list ns).evaluate l r := by
  rw [evaluate_list_cons]
  cases (list ns).evaluate l r <;> rfl

theorem evaluate_joinNode (m : Node) (ns : List Node) :
    (list (joinNode m ns)).evaluate l r = (list (m :: ns)).evaluate l r := by
  fun_cases joinNode m ns with
  | case1 => rfl
  | case2 => simp only [evaluate_list_text, Functor.map_map, List.append_assoc]
  | case3 => rfl

theorem evaluate_joinNodes (ms ns : List Node) :
    (list (joinNodes ms ns)).evaluate l r = do
      let s ← (list ms).evaluate l r
      let t ← (list ns).evaluate l r
      return s ++ t := by
  have hnil : (list []).evaluate l r = pure [] := rfl
  fun_induction joinNodes ms ns with
  | case1 ns => simp only [hnil, pure_bind, List.nil_append, bind_pure]
  | case2 m ns =>
    rw [evaluate_joinNode]
    simp only [evaluate_list_cons, hnil, pure_bind, bind_assoc, List.append_nil]
  | case3 m ms ns _ ih =>
    rw [evaluate_list_cons, ih, evaluate_list_cons]
    simp only [bind_assoc, pure_bind, List.append_assoc]

end

/-- A pattern behind one that is read gives its error, or else its nodes behind those of the first. The
value is then that of the first followed by that of the second, and an error of the first comes
before one of the second. -/
theorem parse_append {a : Text} {xs : List Node} (ha : parse a = .ok (.list xs)) (b : Text) :
    (∀ e, parse b = .error e → parse (a ++ b) = .error e) ∧
      ∀ ys, parse b = .ok (.list ys) →
        parse (a ++ b) = .ok (.list (joinNodes xs ys)) ∧
          ∀ l r, (list (joinNodes xs ys)).evaluate l r = do
            let s ← (list xs).evaluate l r
            let t ← (list ys).evaluate l r
            return s ++ t :=
  ⟨fun _ hb => parse_append_error ha hb,
    fun ys hb => ⟨parse_append_ok ha hb, fun l r => evaluate_joinNodes l r xs ys⟩⟩

theorem parse_append_texts_meet :
    parse "%%$f(%x%)b".toList =
        .ok (.list [.text ['%'], .call ['f'] [.list [.attribute ['x']]], .text ['b']]) ∧
      parse ("%%$f(%x%)b".toList ++ "$g(".toList) = .error (.unclosedArguments ['g']) ∧
      parse ("%%$f(%x%)b".toList ++ "c%%".toList) = .ok (.list
        [.text ['%'], .call ['f'] [.list [.attribute ['x']]], .text ['b', 'c'], .text ['%']]) := by
  have ha : parse "%%$f(%x%)b".toList =
      .ok (.list [.text ['%'], .call ['f'] [.list [.attribute ['x']]], .text ['b']]) := by
    cbv
  have herror : parse "$g(".toList = .error (.unclosedArguments ['g']) := by cbv
  have hok : parse "c%%".toList = .ok (.list [.text ['c'], .text ['%']]) := by cbv
  exact ⟨ha, (parse_append ha _).1 _ herror, ((parse_append ha _).2 _ hok).1⟩

end RecordText.Node
