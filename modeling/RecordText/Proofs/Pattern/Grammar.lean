import RecordText.Proofs.Pattern.Reading

namespace RecordText.Node

open Text

/-- `Sentence depth s`: the text `s` is a pattern that may stand inside `depth` calls. -/
inductive Sentence : (depth : Nat) → Text → Prop
  | nil {depth} : Sentence depth []
  | plain {depth c s} : c ≠ '%' → c ≠ '$' → Sentence depth s → Sentence depth (c :: s)
  | percent {depth s} : Sentence depth s → Sentence depth ('%' :: '%' :: s)
  | attr {depth name s} : name ≠ [] → '%' ∉ name → Sentence depth s →
      Sentence depth ('%' :: (name ++ '%' :: s))
  | call {depth name s} {args : List Text} : depth < maxNesting → isName name →
      (∀ a ∈ args, Sentence (depth + 1) a) → (∀ a ∈ args, IsArgument a) → Sentence depth s →
      Sentence depth ('$' :: (name ++ '(' :: ([','].intercalate args ++ ')' :: s)))

theorem Sentence.plain_append {depth : Nat} {t s : Text} (ht : ∀ c ∈ t, isPlain c)
    (h : Sentence depth s) : Sentence depth (t ++ s) := by
  induction t with
  | nil => exact h
  | cons c t ih =>
    have hc : c ≠ '%' ∧ c ≠ '$' := by simpa [isPlain] using ht c (by simp)
    exact .plain hc.1 hc.2 (ih fun d hd => ht d (by simp [hd]))

theorem Reads.sentence {levels : Nat} {s : Text} {nodes : List Node} (h : Reads levels s nodes) :
    ∀ depth, depth + levels = maxNesting → Sentence depth s := by
  induction h with
  | nil => exact fun _ _ => .nil
  | percent _ ih => exact fun depth hd => .percent (ih depth hd)
  | attr hne hname _ ih => exact fun depth hd => .attr hne hname (ih depth hd)
  | text _ ht _ _ ih => exact fun depth hd => (ih depth hd).plain_append ht
  | @call levels name u s nodes args hname hcut _ _ iha ih =>
    intro depth hd
    obtain ⟨ps, -, hps, rfl, hargs⟩ := splitArguments_eq_some_iff.1 hcut
    refine .call (by omega) hname (fun p hp => ?_) hps (ih depth hd)
    cases mem_dropEmptyLast_or hp with
    | inl hp =>
      rw [← hargs] at hp
      obtain ⟨a, ha, rfl⟩ := List.mem_map.1 hp
      exact iha a ha (depth + 1) (by omega)
    | inr hp =>
      subst hp
      exact .nil

theorem Reads.exists_cons_plain {levels : Nat} {c : Char} {s : Text} {nodes : List Node}
    (hc : isPlain c) (h : Reads levels s nodes) : ∃ nodes, Reads levels (c :: s) nodes := by
  by_cases hs : ∀ d ∈ s.head?, ¬ isPlain d
  · exact ⟨_, .text (t := [c]) (by simp) (by simpa using hc) hs h⟩
  · cases h with
    | text _ ht hrest h =>
      rw [← List.cons_append]
      exact ⟨_, .text (by simp) (by simpa using ⟨hc, ht⟩) hrest h⟩
    | _ => simp [isPlain] at hs

theorem exists_readings {levels : Nat} {texts : List Text}
    (h : ∀ s ∈ texts, ∃ nodes, Reads levels s nodes) :
    ∃ args : List (Text × List Node), args.map (·.1) = texts ∧
      ∀ a ∈ args, Reads levels a.1 a.2 := by
  induction texts with
  | nil => exact ⟨[], rfl, by simp⟩
  | cons s texts ih =>
    obtain ⟨nodes, hs⟩ := h s (by simp)
    obtain ⟨args, rfl, hargs⟩ := ih fun t ht => h t (by simp [ht])
    exact ⟨(s, nodes) :: args, rfl, List.forall_mem_cons.2 ⟨hs, hargs⟩⟩

theorem Sentence.exists_reads {depth : Nat} {s : Text} (h : Sentence depth s) :
    ∀ levels, depth + levels = maxNesting → ∃ nodes, Reads levels s nodes := by
  induction h with
  | nil => exact fun _ _ => ⟨[], .nil⟩
  | plain hpercent hdollar _ ih =>
    intro levels hl
    obtain ⟨nodes, h⟩ := ih levels hl
    exact h.exists_cons_plain (by simp [isPlain, hpercent, hdollar])
  | percent _ ih =>
    intro levels hl
    obtain ⟨nodes, h⟩ := ih levels hl
    exact ⟨_, .percent h⟩
  | attr hne hname _ ih =>
    intro levels hl
    obtain ⟨nodes, h⟩ := ih levels hl
    exact ⟨_, .attr hne hname h⟩
  | @call depth name s args hdepth hname _ hargs _ iha ih =>
    intro levels hl
    obtain ⟨nodes, h⟩ := ih levels hl
    cases levels with
    | zero => omega
    | succ levels =>
      obtain ⟨readings, htexts, hreads⟩ := exists_readings fun a ha =>
        iha a (mem_of_mem_dropEmptyLast ha) levels (by omega)
      have hcut := splitArguments_intercalate hargs s
      rw [← htexts] at hcut
      exact ⟨_, .call hname hcut hreads h⟩

theorem exists_parse_iff_sentence (s : Text) :
    ((∃ n, parse s = .ok n) ↔ Sentence 0 s) ∧ ((∃ e, parse s = .error e) ↔ ¬ Sentence 0 s) := by
  have hok : (∃ n, parse s = .ok n) ↔ Sentence 0 s := by
    constructor
    · rintro ⟨n, hn⟩
      obtain ⟨nodes, -, h⟩ := parse_eq_ok_iff.1 hn
      exact h.sentence 0 (Nat.zero_add _)
    · intro h
      obtain ⟨nodes, h⟩ := h.exists_reads maxNesting (Nat.zero_add _)
      exact ⟨.list nodes, parse_eq_ok_iff.2 ⟨nodes, rfl, h⟩⟩
  refine ⟨hok, ?_⟩
  rw [← hok]
  cases parse s <;> simp

end RecordText.Node
