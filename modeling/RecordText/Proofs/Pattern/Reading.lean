import Mathlib.Data.List.TakeWhile
import RecordText.Proofs.Except
import RecordText.Proofs.Pattern.Arguments

namespace RecordText.Node

def isName : Text → Bool
  | [] => false
  | c :: s => isAsciiLetter c && s.all isNameChar

def argumentReader : (levels : Nat) → Option (Text → Except PatternError Node)
  | 0 => none
  | levels + 1 => some (parseWithin levels)

theorem parseWithin_eq (levels : Nat) (s : Text) :
    parseWithin levels s = .list <$> parseNodes (argumentReader levels) s := by
  cases levels <;> rfl

theorem ne_percent_of_plain {s : Text} (h : ∀ c ∈ s, isPlain c) : s ≠ ['%'] := by
  rintro rfl
  exact absurd (h '%' (by simp)) (by decide)

theorem exists_plain_append (s : Text) :
    ∃ u v, s = u ++ v ∧ (∀ c ∈ u, isPlain c) ∧ ∀ c ∈ v.head?, ¬ isPlain c := by
  refine ⟨_, _, List.takeWhile_append_dropWhile.symm, fun c hc => List.mem_takeWhile_imp hc, ?_⟩
  have hhead := List.head?_dropWhile_not isPlain s
  grind

section

variable {readArgument : Option (Text → Except PatternError Node)}

theorem parseNodes_nil : parseNodes readArgument [] = .ok [] := by rw [parseNodes]

theorem parseNodes_percent (name s : Text) (h : '%' ∉ name) :
    parseNodes readArgument ('%' :: (name ++ '%' :: s)) =
      (fun nodes => (if name.isEmpty then .text ['%'] else .attribute name) :: nodes) <$>
        parseNodes readArgument s := by
  have hd : (name ++ '%' :: s).dropWhile (· != '%') = '%' :: s := by
    rw [List.dropWhile_append_of_pos (by grind)]
    rfl
  have ht : (name ++ '%' :: s).takeWhile (· != '%') = name := by
    rw [List.takeWhile_append_of_pos (by grind)]
    simp
  rw [parseNodes]
  split
  · simp_all
  · next c rest heq =>
    have hrest : '%' = c ∧ s = rest := by simpa [hd] using heq
    rw [ht, hrest.2]
    rfl

theorem parseNodes_unclosed {s : Text} (h : '%' ∉ s) :
    parseNodes readArgument ('%' :: s) = .error .unclosedAttribute := by
  have hd : s.dropWhile (· != '%') = [] := by
    rw [List.dropWhile_eq_nil_iff]
    grind
  rw [parseNodes]
  split <;> simp_all

theorem parseNodes_plain {c : Char} (h : isPlain c) (s : Text) :
    parseNodes readArgument (c :: s) =
      (fun nodes => .text (c :: s.takeWhile isPlain) :: nodes) <$>
        parseNodes readArgument (s.dropWhile isPlain) := by
  have hc : c ≠ '%' ∧ c ≠ '$' := by simpa [isPlain] using h
  rw [parseNodes]
  · rfl
  all_goals simp [hc]

theorem parseNodes_plain_append {t s : Text} (hne : t ≠ []) (ht : ∀ c ∈ t, isPlain c)
    (hs : ∀ c ∈ s.head?, ¬ isPlain c) :
    parseNodes readArgument (t ++ s) =
      (fun nodes => .text t :: nodes) <$> parseNodes readArgument s := by
  cases t with
  | nil => contradiction
  | cons c t =>
    have hplain : ∀ d ∈ t, isPlain d := fun d hd => ht d (by simp [hd])
    have hdrop : s.dropWhile isPlain = s := by cases s <;> simp_all
    have htake : s.takeWhile isPlain = [] := by cases s <;> simp_all
    rw [List.cons_append, parseNodes_plain (ht c (by simp)), List.takeWhile_append_of_pos hplain,
      List.dropWhile_append_of_pos hplain, hdrop, htake, List.append_nil]

theorem parseNodes_call {name : Text} (h : isName name) (s : Text) :
    parseNodes readArgument ('$' :: (name ++ '(' :: s)) =
      match readArgument with
      | none => .error .tooDeeplyNested
      | some read =>
        match splitArguments s with
        | none => .error (.unclosedArguments name)
        | some (args, r) => do
          let args ← args.mapM read
          let nodes ← parseNodes (some read) r
          return .call name args :: nodes := by
  cases name with
  | nil => contradiction
  | cons c t =>
    have hct : isAsciiLetter c ∧ ∀ d ∈ t, isNameChar d := by simpa [isName] using h
    have hp : ¬ isNameChar '(' := by decide
    have hd : (t ++ '(' :: s).dropWhile isNameChar = '(' :: s := by
      rw [List.dropWhile_append_of_pos hct.2, List.dropWhile_cons_of_neg hp]
    have hw : (t ++ '(' :: s).takeWhile isNameChar = t := by
      rw [List.takeWhile_append_of_pos hct.2, List.takeWhile_cons_of_neg hp, List.append_nil]
    rw [List.cons_append, parseNodes, hw]
    simp only [hct.1, Bool.not_true, Bool.false_eq_true, if_false]
    split
    · simp_all
    · next rest heq =>
      obtain rfl : s = rest := by simpa [hd] using heq
      cases readArgument with
      | none => rfl
      | some read =>
        dsimp only
        split <;> simp_all
    · next d rest hne heq =>
      have hdr : '(' = d ∧ s = rest := by simpa [hd] using heq
      exact absurd hdr.1.symm hne

end

theorem parseNodes_call_zero {name : Text} (h : isName name) (s : Text) :
    parseNodes (argumentReader 0) ('$' :: (name ++ '(' :: s)) = .error .tooDeeplyNested :=
  parseNodes_call h s

theorem parseNodes_call_succ {name s r : Text} {args : List Text} (h : isName name)
    (hcut : splitArguments s = some (args, r)) (levels : Nat) :
    parseNodes (argumentReader (levels + 1)) ('$' :: (name ++ '(' :: s)) = do
      let args ← args.mapM (parseWithin levels)
      let nodes ← parseNodes (argumentReader (levels + 1)) r
      return .call name args :: nodes := by
  rw [parseNodes_call h, argumentReader]
  simp only [hcut]

/-- `Reads levels s nodes`: the text `s`, inside which calls may nest `levels` deep, is read as
`nodes`. A plain text reaches as far as it can. -/
inductive Reads : (levels : Nat) → Text → List Node → Prop
  | nil {levels} : Reads levels [] []
  | percent {levels s nodes} : Reads levels s nodes →
      Reads levels ('%' :: '%' :: s) (.text ['%'] :: nodes)
  | attr {levels name s nodes} : name ≠ [] → '%' ∉ name → Reads levels s nodes →
      Reads levels ('%' :: (name ++ '%' :: s)) (.attribute name :: nodes)
  | text {levels t s nodes} : t ≠ [] → (∀ c ∈ t, isPlain c) → (∀ c ∈ s.head?, ¬ isPlain c) →
      Reads levels s nodes → Reads levels (t ++ s) (.text t :: nodes)
  | call {levels name u s nodes} {args : List (Text × List Node)} : isName name →
      splitArguments u = some (args.map (·.1), s) → (∀ a ∈ args, Reads levels a.1 a.2) →
      Reads (levels + 1) s nodes →
      Reads (levels + 1) ('$' :: (name ++ '(' :: u)) (.call name (args.map (.list ·.2)) :: nodes)

theorem Reads.quoted {levels : Nat} {name s : Text} {nodes : List Node} (hname : '%' ∉ name)
    (h : Reads levels s nodes) :
    Reads levels ('%' :: (name ++ '%' :: s))
      ((if name.isEmpty then .text ['%'] else .attribute name) :: nodes) := by
  cases name with
  | nil => exact .percent h
  | cons c name => exact .attr (by simp) hname h

theorem Reads.head_text {levels : Nat} {s : Text} {nodes : List Node} (h : Reads levels s nodes)
    (hs : ∀ c ∈ s.head?, ¬ isPlain c) : ∀ t, nodes.head? = some (.text t) → t = ['%'] := by
  intro t hhead
  cases h with
  | nil => simp at hhead
  | percent _ =>
    cases hhead
    rfl
  | attr _ _ _ => simp at hhead
  | @text _ u _ _ hne hu _ _ =>
    cases u with
    | nil => contradiction
    | cons c u => exact absurd (hu c (by simp)) (hs c rfl)
  | call _ _ _ _ => simp at hhead

theorem Reads.eq_nil_iff {levels : Nat} {s : Text} {nodes : List Node} (h : Reads levels s nodes) :
    nodes = [] ↔ s = [] := by
  cases h with
  | nil => simp
  | text hne _ _ _ => simp [hne]
  | _ => simp

theorem mapM_parseWithin {levels : Nat} {args : List (Text × List Node)}
    (h : ∀ a ∈ args, parseNodes (argumentReader levels) a.1 = .ok a.2) :
    (args.map (·.1)).mapM (parseWithin levels) = .ok (args.map (.list ·.2)) := by
  induction args with
  | nil => rfl
  | cons a args ih =>
    rw [List.map_cons, List.mapM_cons, parseWithin_eq, h a (by simp),
      ih fun b hb => h b (by simp [hb])]
    rfl

theorem exists_of_mapM_parseWithin {levels : Nat} {texts : List Text} {nodes : List Node}
    (h : texts.mapM (parseWithin levels) = .ok nodes) :
    ∃ args : List (Text × List Node), texts = args.map (·.1) ∧ nodes = args.map (.list ·.2) ∧
      ∀ a ∈ args, parseNodes (argumentReader levels) a.1 = .ok a.2 := by
  induction texts generalizing nodes with
  | nil =>
    cases h
    exact ⟨[], rfl, rfl, by simp⟩
  | cons s texts ih =>
    rw [List.mapM_cons, bind_eq_ok_iff] at h
    obtain ⟨n, hn, h⟩ := h
    obtain ⟨rest, hrest, heq⟩ := bind_eq_ok_iff.1 h
    cases heq
    rw [parseWithin_eq, map_eq_ok_iff] at hn
    obtain ⟨ns, hns, rfl⟩ := hn
    obtain ⟨args, rfl, rfl, hargs⟩ := ih hrest
    exact ⟨(s, ns) :: args, rfl, rfl, by simpa using ⟨hns, fun t ms => hargs (t, ms)⟩⟩

theorem Reads.parseNodes_eq {levels : Nat} {s : Text} {nodes : List Node}
    (h : Reads levels s nodes) : parseNodes (argumentReader levels) s = .ok nodes := by
  induction h with
  | nil => exact parseNodes_nil
  | percent _ ih =>
    refine (parseNodes_percent [] _ List.not_mem_nil).trans ?_
    rw [ih]
    rfl
  | attr hne hname _ ih =>
    rw [parseNodes_percent _ _ hname, ih]
    simp [hne, Functor.map, Except.map]
  | text hne ht hs _ ih =>
    rw [parseNodes_plain_append hne ht hs, ih]
    rfl
  | call hname hcut _ _ iha ih =>
    rw [parseNodes_call_succ hname hcut, mapM_parseWithin iha, ih]
    rfl

theorem eq_takeWhile_append {p : Char → Bool} {s r : Text} {c : Char}
    (h : s.dropWhile p = c :: r) : s = s.takeWhile p ++ c :: r ∧ ¬ p c := by
  refine ⟨by rw [← h, List.takeWhile_append_dropWhile], ?_⟩
  simpa [h] using List.head?_dropWhile_not p s

-- Arguments are read with fewer levels and the rest of the text with the same, hence the induction
-- on the text inside the one on the levels.
theorem reads_of_parseNodes (levels : Nat) (s : Text) :
    ∀ nodes, parseNodes (argumentReader levels) s = .ok nodes → Reads levels s nodes := by
  induction levels using Nat.strongRecOn generalizing s with
  | ind levels ih =>
    generalize hr : argumentReader levels = readArgument
    fun_induction parseNodes readArgument s with
    | case1 =>
      intro nodes h
      cases h
      exact .nil
    | case3 readArgument s c rest hdrop name ihs =>
      intro nodes h
      obtain ⟨ns, hns, heq⟩ := bind_eq_ok_iff.1 h
      cases heq
      have hs := eq_takeWhile_append hdrop
      have hc : c = '%' := by simpa using hs.2
      have hname : '%' ∉ name := fun hmem => by simpa using List.mem_takeWhile_imp hmem
      rw [hs.1, hc]
      exact .quoted hname (ihs hr ns hns)
    | case9 c s hc name u hdrop read args rest hcut ihs =>
      intro nodes h
      obtain ⟨as, has, h⟩ := bind_eq_ok_iff.1 h
      obtain ⟨ns, hns, heq⟩ := bind_eq_ok_iff.1 h
      cases heq
      cases levels with
      | zero => contradiction
      | succ levels =>
        cases hr
        obtain ⟨l, rfl, rfl, hl⟩ := exists_of_mapM_parseWithin has
        have hname : isName name := by simpa [isName, name] using hc
        have hargs : ∀ a ∈ l, Reads levels a.1 a.2 := fun a ha =>
          ih levels (Nat.lt_succ_self levels) a.1 a.2 (hl a ha)
        rw [(eq_takeWhile_append hdrop).1]
        exact .call hname hcut hargs (ihs rfl ns hns)
    | case11 readArgument c s hpercent hend hcall ihs =>
      intro nodes h
      obtain ⟨ns, hns, heq⟩ := bind_eq_ok_iff.1 h
      cases heq
      have hdollar : c ≠ '$' := by
        rintro rfl
        cases s with
        | nil => exact hend rfl rfl
        | cons d s => exact hcall d s rfl rfl
      have hc : isPlain c := by simpa [isPlain] using ⟨hpercent, hdollar⟩
      have hs : c :: s = (c :: s.takeWhile isPlain) ++ s.dropWhile isPlain := by simp
      have hhead := List.head?_dropWhile_not isPlain s
      rw [hs]
      refine .text (by simp) ?_ (by grind) (ihs hr ns hns)
      simpa [hc] using fun d hd => List.mem_takeWhile_imp hd
    | _ =>
      intro nodes h
      contradiction

theorem parseNodes_eq_ok_iff {levels : Nat} {s : Text} {nodes : List Node} :
    parseNodes (argumentReader levels) s = .ok nodes ↔ Reads levels s nodes :=
  ⟨reads_of_parseNodes levels s nodes, Reads.parseNodes_eq⟩

theorem parse_eq_ok_iff {s : Text} {n : Node} :
    parse s = .ok n ↔ ∃ nodes, n = .list nodes ∧ Reads maxNesting s nodes := by
  rw [parse, parseWithin_eq, map_eq_ok_iff]
  simp only [parseNodes_eq_ok_iff]
  constructor
  · rintro ⟨nodes, h, rfl⟩
    exact ⟨nodes, rfl, h⟩
  · rintro ⟨nodes, rfl, h⟩
    exact ⟨nodes, h, rfl⟩

end RecordText.Node
