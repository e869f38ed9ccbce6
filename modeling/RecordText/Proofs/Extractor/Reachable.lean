import RecordText.Proofs.Extractor.Collapsing

namespace RecordText

theorem countP_isSeparator (s : Text) : s.countP isSeparator = s.count '/' + s.count '\\' := by
  induction s with
  | nil => rfl
  | cons c s ih => grind [isSeparator]

theorem count_slash_pathTail_le (k : Nat) (path : Text) : (pathTail k path).count '/' ≤ k := by
  rw [← countP_isSeparator_of_backslash_notMem (backslash_notMem_pathTail k path),
    countP_isSeparator_pathTail]
  refine (List.length_filter_le _ _).trans ?_
  rw [List.rtake, List.length_drop]
  omega

namespace Extractor

/-- The extractor is empty or was compiled, from a closed pattern or not, and was added to or compiled again
after that, any number of times. -/
inductive Reachable : Extractor → Prop
  | empty (m : Mode) : Reachable (empty m)
  | compile (p : Text) (m : Mode) : Reachable (compile p m).1
  | addText {e} (s : Text) : Reachable e → Reachable (e.addText s)
  | addSlot {e} (name : Text) : Reachable e → Reachable (e.addSlot name)
  | recompile {e} : Reachable e → Reachable e.recompile.1

theorem Reachable.constructed {e : Extractor} (h : Reachable e) : Constructed e := by
  induction h with
  | empty m => exact .empty m
  | compile p m => exact .compile p m
  | addText s _ ih => exact .addText s ih
  | addSlot name _ ih => exact .addSlot name ih
  | @recompile e _ _ => exact .compile e.print e.mode

theorem nil_notMem_literals_addText {e : Extractor} (h : [] ∉ e.literals) (s : Text) :
    [] ∉ (e.addText s).literals := by
  cases s with
  | nil => exact h
  | cons c s =>
    rw [literals_addText (by simp)]
    simpa using h

theorem Constructed.nil_notMem_literals {e : Extractor} (h : Constructed e) : [] ∉ e.literals :=
  @Constructed.induction (fun e => [] ∉ e.literals) (fun _ s h => nil_notMem_literals_addText h s)
    (fun e name h => by rwa [literals_addSlot]) (fun _ => List.not_mem_nil) e h

/-- However an extractor came about, its separators are the slashes and backslashes of its literals, none of
which is empty, and the path that it is matched against has no backslash and no more slashes. -/
theorem separators_eq_count {e : Extractor} (h : Reachable e) :
    e.separators = e.sumOverLiterals (fun s => s.count '/' + s.count '\\') ∧ [] ∉ e.literals ∧
      (e.mode = .path → ∀ path, e.extractFrom path = e.extract (pathTail e.separators path) ∧
        '\\' ∉ pathTail e.separators path ∧
        (pathTail e.separators path).count '/' ≤
          e.sumOverLiterals (fun s => s.count '/' + s.count '\\')) := by
  have hcount : e.separators = e.sumOverLiterals (fun s => s.count '/' + s.count '\\') :=
    h.constructed.counted.trans (congrArg e.sumOverLiterals (funext countP_isSeparator))
  refine ⟨hcount, h.constructed.nil_notMem_literals, fun hmode path => ?_⟩
  refine ⟨extractFrom_of_path hmode path, backslash_notMem_pathTail _ path, ?_⟩
  rw [← hcount]
  exact count_slash_pathTail_le e.separators path

theorem separators_eq_count_unclosed :
    let e := (((compile "%a%/%%\\%b".toList .path).1.addText []).addSlot "c".toList).recompile.1.addText
      "//".toList
    (Reachable e ∧ e.mode = .path) ∧ e.separators = 4 ∧ [] ∉ e.literals ∧
      ∀ path, '\\' ∉ pathTail 4 path ∧ (pathTail 4 path).count '/' ≤ 4 := by
  intro e
  have he : Reachable e := .addText _ (.recompile (.addSlot _ (.addText _ (.compile _ _))))
  have hmode : e.mode = .path := by decide
  obtain ⟨hcount, hempty, hpath⟩ := separators_eq_count he
  have hfour : e.sumOverLiterals (fun s => s.count '/' + s.count '\\') = 4 := by decide
  rw [hfour] at hcount hpath
  rw [hcount] at hpath
  exact ⟨⟨he, hmode⟩, hcount, hempty, fun path => (hpath hmode path).2⟩

end Extractor

end RecordText
