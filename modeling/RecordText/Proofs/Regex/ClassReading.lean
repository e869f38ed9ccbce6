import Mathlib.Data.List.TakeDrop
import Mathlib.Data.List.TakeWhile
import RecordText.Regex.Class

/-!
Reading a bracketed class does not look beyond its closing bracket: with other text behind it the same class
is read. A hyphen, a doubled operator or the colon of a named class does look at what follows, but not past
a bracket that ends the class.
-/

namespace RecordText.Regex

@[simp] theorem skip_false (s : Text) : skip false s = s := rfl

/-- What is read of the text is read of it with more text behind it too, and what is left ends it. -/
structure Takes {α : Type} (read : Text → Option (α × Text)) (s : Text) (a : α) (rest : Text) : Prop where
  isSuffix : rest <:+ s
  append : ∀ t, read (s ++ t) = some (a, rest ++ t)

namespace Takes

variable {α : Type} {read read' : Text → Option (α × Text)} {s rest : Text} {a : α} {c : Char}

theorem cons (h : Takes read s a rest) (hread : ∀ t, read' (c :: t) = read t) :
    Takes read' (c :: s) a rest where
  isSuffix := h.isSuffix.trans (List.suffix_cons c s)
  append t := by rw [List.cons_append, hread, h.append]

theorem of_cons (hread : ∀ t, read (c :: t) = some (a, t)) (s : Text) : Takes read (c :: s) a s where
  isSuffix := List.suffix_cons c s
  append t := hread (s ++ t)

end Takes

theorem readBraced_takes {fuel fuel' : Nat} {s name rest : Text}
    (h : readBraced false fuel s = some (name, rest)) (hfuel : fuel ≤ fuel') :
    Takes (readBraced false fuel') s name rest := by
  induction fuel generalizing fuel' s name with
  | zero => contradiction
  | succ fuel ih =>
    obtain ⟨fuel', rfl⟩ := Nat.exists_eq_add_of_le' hfuel
    cases s with
    | nil => contradiction
    | cons c s =>
      simp only [readBraced, skip_false] at h
      split at h
      · next hc =>
        obtain ⟨rfl, rfl⟩ : [] = name ∧ s = rest := by simpa using h
        exact ⟨List.suffix_cons c s, fun t => by simp [readBraced, hc]⟩
      · next hc =>
        obtain ⟨⟨ds, r⟩, hread, heq⟩ := Option.map_eq_some_iff.1 h
        cases heq
        obtain ⟨hsuffix, happend⟩ := ih hread (Nat.le_add_left fuel fuel')
        refine ⟨hsuffix.trans (List.suffix_cons c s), fun t => ?_⟩
        rw [← Nat.add_assoc, List.cons_append, readBraced, skip_false]
        simp [hc, happend]

theorem readHexDigits_takes {n : Nat} {s ds rest : Text}
    (h : readHexDigits false n s = some (ds, rest)) : Takes (readHexDigits false n) s ds rest := by
  induction n generalizing s ds with
  | zero =>
    obtain ⟨rfl, rfl⟩ : [] = ds ∧ s = rest := by simpa [readHexDigits] using h
    exact ⟨List.suffix_refl s, fun t => rfl⟩
  | succ n ih =>
    cases s with
    | nil => contradiction
    | cons c s =>
      obtain ⟨⟨ds, r⟩, hread, heq⟩ := Option.map_eq_some_iff.1 h
      cases heq
      obtain ⟨hsuffix, happend⟩ := ih hread
      refine ⟨hsuffix.trans (List.suffix_cons c s), fun t => ?_⟩
      simp [readHexDigits, happend]

theorem readHex_takes {digits : Nat} {s rest : Text} {a : Ast}
    (h : readHex false digits s = some (a, rest)) : Takes (readHex false digits) s a rest := by
  cases s with
  | nil => contradiction
  | cons c s =>
    simp only [readHex, skip_false] at h
    split at h
    · next hc =>
      obtain ⟨⟨ds, r⟩, hread, h⟩ := Option.bind_eq_some_iff.1 h
      obtain ⟨d, hchar, heq⟩ := Option.bind_eq_some_iff.1 h
      cases heq
      obtain ⟨hsuffix, -⟩ := readBraced_takes hread (Nat.le_refl _)
      refine ⟨hsuffix.trans (List.suffix_cons c s), fun t => ?_⟩
      have hlength : s.length + 1 ≤ s.length + t.length + 1 := by omega
      simp [readHex, hc, (readBraced_takes hread hlength).append, hchar]
    · next hc =>
      obtain ⟨⟨ds, r⟩, hread, h⟩ := Option.bind_eq_some_iff.1 h
      obtain ⟨d, hchar, heq⟩ := Option.bind_eq_some_iff.1 h
      cases heq
      obtain ⟨hsuffix, happend⟩ := readHexDigits_takes hread
      refine ⟨hsuffix, fun t => ?_⟩
      have hread' := happend t
      rw [List.cons_append] at hread'
      simp [readHex, hc, hread', hchar]

theorem readProperty_takes {negated : Bool} {s rest : Text} {a : Ast}
    (h : readProperty false negated s = some (a, rest)) : Takes (readProperty false negated) s a rest := by
  cases s with
  | nil => contradiction
  | cons c s =>
    simp only [readProperty, skip_false] at h
    split at h
    · next hc =>
      obtain ⟨⟨name, r⟩, hread, heq⟩ := Option.bind_eq_some_iff.1 h
      cases heq
      obtain ⟨hsuffix, -⟩ := readBraced_takes hread (Nat.le_refl _)
      refine ⟨hsuffix.trans (List.suffix_cons c s), fun t => ?_⟩
      have hlength : s.length + 1 ≤ s.length + t.length + 1 := by omega
      simp [readProperty, hc, (readBraced_takes hread hlength).append]
    · next hc =>
      split at h
      · contradiction
      · next hc' =>
        cases h
        exact ⟨List.suffix_cons c _, fun t => by simp [readProperty, hc, hc']⟩

theorem exists_anchor_of_readBoundary {s rest : Text} {a : Ast}
    (h : readBoundary false s = some (a, rest)) : ∃ b, a = .anchor b := by
  unfold readBoundary at h
  split at h
  · split at h
    · contradiction
    · split at h
      · cases h
        exact ⟨_, rfl⟩
      · obtain ⟨⟨name, r⟩, -, h⟩ := Option.bind_eq_some_iff.1 h
        simp only at h
        split at h <;> cases h <;> exact ⟨_, rfl⟩
  · cases h
    exact ⟨_, rfl⟩

theorem readEscape_takes {s rest : Text} {a : Ast} (h : readEscape false s = some (a, rest))
    (ha : ∀ b, a ≠ .anchor b) : Takes (readEscape false) s a rest := by
  cases s with
  | nil => contradiction
  | cons c s =>
    simp only [readEscape] at h
    split at h
    case h_1 | h_2 | h_3 => exact (readHex_takes h).cons fun _ => rfl
    case h_4 | h_5 => exact (readProperty_takes h).cons fun _ => rfl
    case h_18 | h_19 | h_21 | h_22 | h_23 =>
      cases h
      exact absurd rfl (ha _)
    case h_20 =>
      obtain ⟨b, rfl⟩ := exists_anchor_of_readBoundary h
      exact absurd rfl (ha b)
    case h_24 =>
      split at h
      · next hc =>
        cases h
        refine .of_cons (fun t => ?_) _
        simp_all [readEscape]
      · contradiction
    all_goals
      cases h
      exact .of_cons (fun _ => rfl) _

theorem readMember_takes {s rest : Text} {i : ClassItem} (h : readMember false s = some (i, rest)) :
    Takes (readMember false) s i rest := by
  unfold readMember at h
  split at h
  · contradiction
  · next s =>
    obtain ⟨⟨a, r⟩, hread, h⟩ := Option.bind_eq_some_iff.1 h
    have ha : ∀ b, a ≠ .anchor b := by
      rintro b rfl
      contradiction
    obtain ⟨hsuffix, happend⟩ := readEscape_takes hread ha
    cases a <;> cases h <;>
      exact ⟨hsuffix.trans (List.suffix_cons _ s), fun t => by simp [readMember, happend]⟩
  · next c s hc =>
    cases h
    exact .of_cons (fun t => by simp [readMember]) _

def readName (negated : Bool) (s : Text) : Option (ClassItem × Text) :=
  match s.span (· != ':') with
  | (name, ':' :: ']' :: rest) =>
    (namedClass? (String.ofList name)).map fun set => (.named set negated, rest)
  | _ => none

theorem readNamedClass_of_ne {c : Char} (hc : c ≠ ':') (s : Text) : readNamedClass (c :: s) = none := by
  unfold readNamedClass
  split
  · next heq => exact absurd (List.cons.inj heq).1 hc
  · rfl

theorem readNamedClass_cons {c : Char} (hc : c ≠ '^') (s : Text) :
    readNamedClass (':' :: c :: s) = readName false (c :: s) := by
  simp only [readNamedClass, List.cons.injEq, hc, false_and, imp_self, implies_true]
  rfl

theorem bracket_notMem_of_namedClass? {name : Text} {set : CharSet}
    (h : namedClass? (String.ofList name) = some set) : ']' ∉ name := by
  have hnames (s : String) (hs : namedClass? s = some set) : ']' ∉ s.toList := by
    unfold namedClass? at hs
    split at hs <;> first | contradiction | decide
  simpa using hnames _ h

theorem span_colon {name : Text} (h : ':' ∉ name) (s : Text) :
    (name ++ ':' :: s).span (· != ':') = (name, ':' :: s) := by
  have hname : ∀ c ∈ name, (c != ':') = true := by
    intro c hc
    rw [bne_iff_ne]
    rintro rfl
    exact h hc
  rw [List.span_eq_takeWhile_dropWhile, List.takeWhile_append_of_pos hname,
    List.dropWhile_append_of_pos hname]
  simp

theorem readName_eq_some_iff {negated : Bool} {s rest : Text} {i : ClassItem} :
    readName negated s = some (i, rest) ↔ ∃ name set, s = name ++ ':' :: ']' :: rest ∧ ':' ∉ name ∧
      namedClass? (String.ofList name) = some set ∧ i = .named set negated := by
  constructor
  · intro h
    unfold readName at h
    split at h
    · next name tail hspan =>
      obtain ⟨set, hset, heq⟩ := Option.map_eq_some_iff.1 h
      cases heq
      rw [List.span_eq_takeWhile_dropWhile, Prod.mk.injEq] at hspan
      refine ⟨name, set, ?_, ?_, hset, rfl⟩
      · rw [← hspan.1, ← hspan.2, List.takeWhile_append_dropWhile]
      · intro hmem
        rw [← hspan.1] at hmem
        exact absurd (List.mem_takeWhile_imp hmem) (by decide)
    · contradiction
  · rintro ⟨name, set, rfl, hname, hset, rfl⟩
    simp only [readName, span_colon hname, hset]
    rfl

theorem readName_takes {negated : Bool} {s rest : Text} {i : ClassItem}
    (h : readName negated s = some (i, rest)) : Takes (readName negated) s i rest := by
  obtain ⟨name, set, rfl, hname, hset, rfl⟩ := readName_eq_some_iff.1 h
  refine ⟨⟨name ++ [':', ']'], by simp⟩, fun t => ?_⟩
  exact readName_eq_some_iff.2 ⟨name, set, by simp, hname, hset, rfl⟩

theorem readName_append_eq_none {negated : Bool} {s : Text} (h : readName negated s = none)
    (hbracket : ']' ∈ s) (t : Text) : readName negated (s ++ t) = none := by
  rw [Option.eq_none_iff_forall_ne_some]
  rintro ⟨i, rest⟩ hsome
  obtain ⟨name, set, hs, hname, hset, rfl⟩ := readName_eq_some_iff.1 hsome
  have hnotMem : ']' ∉ name ++ [':'] := by simpa using bracket_notMem_of_namedClass? hset
  rw [List.append_cons] at hs
  obtain ⟨u, hu, -⟩ | ⟨u, hu, hrest⟩ := List.append_eq_append_iff.1 hs
  · exact hnotMem (hu ▸ List.mem_append_left u hbracket)
  · cases u with
    | nil => exact hnotMem (by simpa [hu] using hbracket)
    | cons c u =>
      obtain ⟨rfl, -⟩ := List.cons.inj hrest
      rw [readName_eq_some_iff.2 ⟨name, set, by simpa using hu, hname, hset, rfl⟩] at h
      contradiction

theorem readNamedClass_takes {s rest : Text} {i : ClassItem} (h : readNamedClass s = some (i, rest)) :
    Takes readNamedClass s i rest := by
  match s with
  | [] => contradiction
  | [c] =>
    by_cases hc : c = ':'
    · subst hc
      contradiction
    · rw [readNamedClass_of_ne hc] at h
      contradiction
  | c :: d :: s =>
    by_cases hc : c = ':'
    · subst hc
      by_cases hd : d = '^'
      · subst hd
        exact ((readName_takes h).cons fun _ => rfl).cons fun _ => rfl
      · rw [readNamedClass_cons hd] at h
        obtain ⟨hsuffix, happend⟩ := readName_takes h
        refine ⟨hsuffix.trans (List.suffix_cons _ _), fun t => ?_⟩
        exact (readNamedClass_cons hd (s ++ t)).trans (happend t)
    · rw [readNamedClass_of_ne hc] at h
      contradiction

theorem readNamedClass_append_eq_none {s : Text} (h : readNamedClass s = none) (hbracket : ']' ∈ s)
    (t : Text) : readNamedClass (s ++ t) = none := by
  match s with
  | [] => contradiction
  | [c] =>
    obtain rfl := List.mem_singleton.1 hbracket
    exact readNamedClass_of_ne (by decide) t
  | c :: d :: s =>
    by_cases hc : c = ':'
    · subst hc
      by_cases hd : d = '^'
      · subst hd
        exact readName_append_eq_none (s := s) h (by simpa using hbracket) t
      · rw [readNamedClass_cons hd] at h
        exact (readNamedClass_cons hd (s ++ t)).trans
          (readName_append_eq_none h (by simpa using hbracket) t)
    · exact readNamedClass_of_ne hc _

theorem readRange_of_member {s rest : Text} {first : ClassItem}
    (h : readMember false s = some (first, rest)) (hrest : ∀ t, rest ≠ '-' :: t) :
    readRange false s = some (first, rest) := by
  rw [readRange, h]
  simp only [Option.bind_eq_bind, Option.bind_some, skip_false]
  rfl

theorem readRange_of_hyphen {s t : Text} {first : ClassItem}
    (h : readMember false s = some (first, '-' :: t)) : readRange false s =
      if t.head? = some ']' || t.head? = some '-' then some (first, '-' :: t)
      else (readMember false t).bind fun (last, rest) => (first.rangeTo? last).map (·, rest) := by
  rw [readRange, h]
  simp only [Option.bind_eq_bind, Option.bind_some, skip_false, afterHyphen?, Bool.not_false, if_pos]
  simp only [Option.map_eq_bind]
  rfl

/-- A range looks at the character behind it, and one further if that is a hyphen. -/
theorem readRange_takes {s rest : Text} {i : ClassItem} (h : readRange false s = some (i, rest))
    (hrest : rest ≠ []) : Takes (readRange false) s i rest := by
  obtain ⟨⟨first, r⟩, hfirst, -⟩ := Option.bind_eq_some_iff.1 h
  obtain ⟨hsuffix, happend⟩ := readMember_takes hfirst
  by_cases hr : ∃ t, r = '-' :: t
  · obtain ⟨t, rfl⟩ := hr
    cases t with
    | nil =>
      rw [readRange_of_hyphen hfirst] at h
      contradiction
    | cons c t =>
      rw [readRange_of_hyphen hfirst] at h
      split at h
      · next hnext =>
        cases h
        refine ⟨hsuffix, fun u => ?_⟩
        rw [readRange_of_hyphen (happend u)]
        exact if_pos hnext
      · next hnext =>
        obtain ⟨⟨last, r⟩, hlast, h⟩ := Option.bind_eq_some_iff.1 h
        obtain ⟨hsuffix', happend'⟩ := readMember_takes hlast
        obtain ⟨range, hrange, heq⟩ := Option.map_eq_some_iff.1 h
        cases heq
        refine ⟨hsuffix'.trans ((List.suffix_cons _ _).trans hsuffix), fun u => ?_⟩
        rw [readRange_of_hyphen (happend u)]
        refine (if_neg hnext).trans ?_
        simp only [List.append_eq, happend', Option.bind_some, hrange, Option.map_some]
  · have hr' : ∀ t, r ≠ '-' :: t := fun t ht => hr ⟨t, ht⟩
    rw [readRange_of_member hfirst hr'] at h
    cases h
    refine ⟨hsuffix, fun t => readRange_of_member (happend t) fun u hu => ?_⟩
    obtain ⟨c, r, rfl⟩ := List.exists_cons_of_ne_nil hrest
    exact hr' r (by rw [(List.cons.inj hu).1])

theorem readHyphens_takes {fuel fuel' : Nat} {items items' : List ClassItem} {s rest : Text}
    (h : readHyphens false fuel items s = (items', rest)) (hrest : rest ≠ []) (hlength : s.length ≤ fuel)
    (hfuel : fuel ≤ fuel') :
    rest <:+ s ∧ ∀ t, readHyphens false fuel' items (s ++ t) = (items', rest ++ t) := by
  induction s generalizing fuel fuel' items with
  | nil =>
    have hnil : (items, []) = (items', rest) := by
      cases fuel <;> exact h
    exact absurd (Prod.mk.inj hnil).2.symm hrest
  | cons c s ih =>
    rw [List.length_cons] at hlength
    obtain ⟨fuel, rfl⟩ := Nat.exists_eq_add_of_le' (Nat.le_of_add_left_le hlength)
    obtain ⟨fuel', rfl⟩ := Nat.exists_eq_add_of_le' (Nat.le_of_add_left_le hfuel)
    by_cases hc : c = '-'
    · subst hc
      obtain ⟨hsuffix, happend⟩ :=
        ih h (Nat.le_of_succ_le_succ hlength) (Nat.le_of_succ_le_succ hfuel)
      exact ⟨hsuffix.trans (List.suffix_cons _ s), happend⟩
    · have hread (fuel : Nat) (s : Text) : readHyphens false (fuel + 1) items (c :: s) = (items, c :: s) := by
        simp [readHyphens, hc]
      rw [hread] at h
      cases h
      exact ⟨List.suffix_refl _, fun t => hread _ _⟩

def readLeading (s : Text) : List ClassItem × Text :=
  match readHyphens false s.length [] s with
  | ([], ']' :: t) => ([.literal ']'], t)
  | r => r

theorem readOpening_negated (s : Text) : readOpening false ('^' :: s) = (true, readLeading s) := by
  simp only [readOpening, readLeading, skip_false]
  split <;> simp_all

theorem readOpening_of_ne {s : Text} (h : ∀ t, s ≠ '^' :: t) :
    readOpening false s = (false, readLeading s) := by
  simp only [readOpening, readLeading, skip_false]
  split <;> simp_all

theorem readLeading_takes {items : List ClassItem} {s rest : Text} (h : readLeading s = (items, rest))
    (hrest : rest ≠ []) : rest <:+ s ∧ ∀ t, readLeading (s ++ t) = (items, rest ++ t) := by
  unfold readLeading at h
  have hfuel (t : Text) : s.length ≤ (s ++ t).length := by simp
  split at h
  · next r hread =>
    cases h
    obtain ⟨hsuffix, -⟩ := readHyphens_takes hread (by simp) (Nat.le_refl _) (Nat.le_refl _)
    refine ⟨(List.suffix_cons _ _).trans hsuffix, fun t => ?_⟩
    rw [readLeading, (readHyphens_takes hread (by simp) (Nat.le_refl _) (hfuel t)).2]
    rfl
  · next hbracket =>
    refine ⟨(readHyphens_takes h hrest (Nat.le_refl _) (Nat.le_refl _)).1, fun t => ?_⟩
    rw [readLeading, (readHyphens_takes h hrest (Nat.le_refl _) (hfuel t)).2]
    obtain ⟨c, rest, rfl⟩ := List.exists_cons_of_ne_nil hrest
    split
    · next heq =>
      obtain ⟨rfl, hcons⟩ := Prod.mk.inj heq
      obtain ⟨rfl, -⟩ := List.cons.inj hcons
      exact absurd h (hbracket _)
    · rfl

theorem readOpening_takes {negated : Bool} {items : List ClassItem} {s rest : Text}
    (h : readOpening false s = (negated, items, rest)) (hrest : rest ≠ []) :
    rest <:+ s ∧ ∀ t, readOpening false (s ++ t) = (negated, items, rest ++ t) := by
  by_cases hs : ∃ t, s = '^' :: t
  · obtain ⟨s, rfl⟩ := hs
    rw [readOpening_negated, Prod.mk.injEq] at h
    obtain ⟨hsuffix, happend⟩ := readLeading_takes h.2 hrest
    refine ⟨hsuffix.trans (List.suffix_cons _ s), fun t => ?_⟩
    rw [List.cons_append, readOpening_negated, happend, h.1]
  · have hs' : ∀ t, s ≠ '^' :: t := fun t ht => hs ⟨t, ht⟩
    rw [readOpening_of_ne hs', Prod.mk.injEq] at h
    obtain ⟨hsuffix, happend⟩ := readLeading_takes h.2 hrest
    refine ⟨hsuffix, fun t => ?_⟩
    rw [readOpening_of_ne, happend, h.1]
    intro u hu
    cases s with
    | nil => exact hrest (List.eq_nil_of_suffix_nil hsuffix)
    | cons c s => exact hs' s (by rw [(List.cons.inj hu).1])

theorem readRange_singleton {c : Char} {rest : Text} {i : ClassItem}
    (h : readRange false [c] = some (i, rest)) : rest = [] := by
  by_cases hc : c = '\\'
  · subst hc
    contradiction
  · have hread : readMember false [c] = some (.literal c, []) := by simp [readMember]
    rw [readRange_of_member hread nofun] at h
    cases h
    rfl

theorem readMembers_of_range {fuel : Nat} {pending : Option (SetOp × ClassSet)} {items : List ClassItem}
    {c d : Char} {s : Text} (hclose : c ≠ ']') (hopen : c ≠ '[')
    (hop : c = d → c ≠ '&' ∧ c ≠ '-' ∧ c ≠ '~') :
    readMembers false (fuel + 1) pending items (c :: d :: s) =
      (readRange false (c :: d :: s)).bind fun (item, rest) =>
        readMembers false fuel pending (item :: items) rest := by
  rw [readMembers, skip_false]
  split <;> simp_all

mutual

theorem readClass_takes {fuel fuel' : Nat} {s rest : Text} {set : ClassSet} {negated : Bool}
    (h : readClass false fuel s = some (set, negated, rest)) (hfuel : fuel ≤ fuel') :
    ']' ∈ s ∧ rest <:+ s ∧ ∀ t, readClass false fuel' (s ++ t) = some (set, negated, rest ++ t) := by
  match fuel, h with
  | fuel + 1, h =>
    obtain ⟨fuel', rfl⟩ := Nat.exists_eq_add_of_le' (Nat.le_of_add_left_le hfuel)
    rw [readClass] at h
    obtain ⟨⟨negated', items, r⟩, hopening⟩ : ∃ o, readOpening false s = o := ⟨_, rfl⟩
    rw [hopening] at h
    obtain ⟨⟨set, r'⟩, hread, heq⟩ := Option.bind_eq_some_iff.1 h
    cases heq
    obtain ⟨hbracket, hsuffix, happend⟩ := readMembers_takes hread (Nat.le_of_succ_le_succ hfuel)
    obtain ⟨hsuffix', happend'⟩ := readOpening_takes hopening (List.ne_nil_of_mem hbracket)
    refine ⟨hsuffix'.mem hbracket, hsuffix.trans hsuffix', fun t => ?_⟩
    simp [readClass, happend', happend]

theorem readMembers_takes {fuel fuel' : Nat} {pending : Option (SetOp × ClassSet)}
    {items : List ClassItem} {s rest : Text} {set : ClassSet}
    (h : readMembers false fuel pending items s = some (set, rest)) (hfuel : fuel ≤ fuel') :
    ']' ∈ s ∧ Takes (readMembers false fuel' pending items) s set rest := by
  match fuel, h with
  | fuel + 1, h =>
    obtain ⟨fuel', rfl⟩ := Nat.exists_eq_add_of_le' (Nat.le_of_add_left_le hfuel)
    replace hfuel := Nat.le_of_succ_le_succ hfuel
    rw [readMembers, skip_false] at h
    split at h
    · cases h
      exact ⟨List.mem_cons_self, List.suffix_cons _ _, fun t => rfl⟩
    · split at h
      · next item r hname =>
        obtain ⟨hbracket, hsuffix, happend⟩ := readMembers_takes h hfuel
        obtain ⟨hsuffix', happend'⟩ := readNamedClass_takes hname
        have hsuffix'' := hsuffix'.trans (List.suffix_cons '[' _)
        refine ⟨hsuffix''.mem hbracket, hsuffix.trans hsuffix'', fun t => ?_⟩
        simp [readMembers, happend', happend]
      · next hname =>
        obtain ⟨⟨inner, negated, r⟩, hread, h⟩ := Option.bind_eq_some_iff.1 h
        obtain ⟨hbracket', hsuffix', happend'⟩ := readClass_takes hread hfuel
        obtain ⟨hbracket, hsuffix, happend⟩ := readMembers_takes h hfuel
        have hsuffix'' := hsuffix'.trans (List.suffix_cons '[' _)
        refine ⟨hsuffix''.mem hbracket, hsuffix.trans hsuffix'', fun t => ?_⟩
        -- The inner class has its bracket, so nothing behind it makes a named class of it.
        have hname' := readNamedClass_append_eq_none hname hbracket' t
        simp [readMembers, hname', happend', happend]
    case h_3 | h_4 | h_5 =>
      obtain ⟨hbracket, hsuffix, happend⟩ := readMembers_takes h hfuel
      exact ⟨by simp [hbracket], hsuffix.trans ((List.suffix_cons _ _).trans (List.suffix_cons _ _)), happend⟩
    · next hclose hopen hand hminus htilde =>
      obtain ⟨⟨item, r⟩, hread, h⟩ := Option.bind_eq_some_iff.1 h
      obtain ⟨hbracket, hsuffix, happend⟩ := readMembers_takes h hfuel
      obtain ⟨hsuffix', happend'⟩ := readRange_takes hread (List.ne_nil_of_mem hbracket)
      refine ⟨hsuffix'.mem hbracket, hsuffix.trans hsuffix', fun t => ?_⟩
      match s with
      | [] => contradiction
      | [c] => exact absurd (readRange_singleton hread) (List.ne_nil_of_mem hbracket)
      | c :: d :: s =>
        rw [List.cons_append, List.cons_append, readMembers_of_range, ← List.cons_append,
          ← List.cons_append, happend', Option.bind_some]
        · exact happend t
        · rintro rfl
          exact hclose _ rfl
        · rintro rfl
          exact hopen _ rfl
        · rintro rfl
          exact ⟨fun hc => hand s (by rw [hc]), fun hc => hminus s (by rw [hc]),
            fun hc => htilde s (by rw [hc])⟩

end

/-- A text as the inside of a class: the bracket behind it is the one that ends the class. -/
def classBody? (set : Text) : Option (ClassSet × Bool) :=
  match readClass false (2 * (set.length + 1) + 2) (set ++ [']']) with
  | some (s, negated, []) => some (s, negated)
  | _ => none

theorem classBody?_eq_some_iff {set : Text} {s : ClassSet} {negated : Bool} :
    classBody? set = some (s, negated) ↔
      readClass false (2 * (set.length + 1) + 2) (set ++ [']']) = some (s, negated, []) := by
  unfold classBody?
  split
  · next h => simp [h]
  · next h => exact ⟨nofun, fun h' => absurd h' (h _ _)⟩

theorem readClass_of_classBody? {set : Text} {s : ClassSet} {negated : Bool} {fuel : Nat}
    (h : classBody? set = some (s, negated)) (hfuel : 2 * (set.length + 1) + 2 ≤ fuel) (t : Text) :
    readClass false fuel (set ++ ']' :: t) = some (s, negated, t) := by
  obtain ⟨-, -, happend⟩ := readClass_takes (classBody?_eq_some_iff.1 h) hfuel
  simpa using happend t

end RecordText.Regex
