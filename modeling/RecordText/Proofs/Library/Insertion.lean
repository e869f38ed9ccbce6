import RecordText.Proofs.Pattern.Dependence
import RecordText.Proofs.Pattern.Reading

namespace RecordText

namespace Library

def Ordered (l : Library) : Prop := l.names.Pairwise (· < ·)

theorem contains_iff_mem_names {l : Library} {n : Text} : l.contains n ↔ n ∈ l.names := by
  rw [contains, get?, List.lookup_isSome_iff, names, List.mem_map]
  simp only [beq_iff_eq, @eq_comm _ n]

theorem mem_insertEntry_iff {name n : Text} {f : Function} {l : List (Text × Function)} :
    n ∈ (insertEntry name f l).map Prod.fst ↔ n = name ∨ n ∈ l.map Prod.fst := by
  induction l with
  | nil => simp [insertEntry]
  | cons x l ih =>
    rw [insertEntry]
    split
    · simp
    · split
      · next heq => simp [heq]
      · rw [List.map_cons, List.mem_cons, ih, List.map_cons, List.mem_cons, or_left_comm]

theorem pairwise_insertEntry {l : List (Text × Function)} (h : (l.map Prod.fst).Pairwise (· < ·))
    (name : Text) (f : Function) : ((insertEntry name f l).map Prod.fst).Pairwise (· < ·) := by
  induction l with
  | nil => exact List.pairwise_singleton _ _
  | cons x l ih =>
    obtain ⟨hx, hl⟩ := List.pairwise_cons.1 h
    rw [insertEntry]
    split
    · next hlt =>
      exact List.pairwise_cons.2
        ⟨List.forall_mem_cons.2 ⟨hlt, fun n hn => List.lt_trans hlt (hx n hn)⟩, h⟩
    · next hlt =>
      split
      · next heq => exact List.pairwise_cons.2 ⟨heq ▸ hx, hl⟩
      · next hne =>
        have hgt : x.1 < name := ((Std.lt_trichotomy name x.1).resolve_left hlt).resolve_left hne
        refine List.pairwise_cons.2 ⟨fun n hn => ?_, ih hl⟩
        obtain rfl | hn := mem_insertEntry_iff.1 hn
        · exact hgt
        · exact hx n hn

theorem mem_names_insert {l : Library} {name n : Text} {f : Function} :
    n ∈ (l.insert name f).names ↔ n = name ∨ n ∈ l.names := mem_insertEntry_iff

theorem Ordered.insert {l : Library} (h : l.Ordered) (name : Text) (f : Function) :
    (l.insert name f).Ordered := pairwise_insertEntry h name f

theorem mem_names_insertAll {l : Library} {fs : List (Text × Function)} {n : Text} :
    n ∈ (l.insertAll fs).names ↔ n ∈ l.names ∨ n ∈ fs.map Prod.fst := by
  induction fs generalizing l with
  | nil => simp [insertAll]
  | cons f fs ih =>
    rw [insertAll, List.foldl_cons]
    refine ih.trans ?_
    rw [mem_names_insert, List.map_cons, List.mem_cons, or_assoc, or_left_comm]

theorem Ordered.insertAll {l : Library} (h : l.Ordered) (fs : List (Text × Function)) :
    (l.insertAll fs).Ordered :=
  List.foldlRecOn fs _ h fun _ hl x _ => hl.insert x.1 x.2

theorem ordered_empty : empty.Ordered := .nil

theorem ordered_builtin : builtin.Ordered := ordered_empty.insertAll _

theorem get?_insertAll_append {name : Text} {f : Function} {later : List (Text × Function)}
    (h : name ∉ later.map Prod.fst) (l : Library) (earlier : List (Text × Function)) :
    (l.insertAll (earlier ++ (name, f) :: later)).get? name = some f := by
  rw [insertAll, List.foldl_append, List.foldl_cons]
  refine (get?_insertAll h _).trans ?_
  rw [get?_insert, if_pos rfl]

end Library

namespace Node

theorem compile_call_nil {name : Text} (h : isName name) :
    compile ('$' :: (name ++ ['(', ')'])) = .ok (.list [.call name []]) := by
  have hreads : Reads maxNesting ('$' :: (name ++ ['(', ')'])) [.call name []] :=
    @Reads.call 63 name [')'] [] [] [] h rfl (by simp) .nil
  rw [compile, parse_eq_ok_iff.2 ⟨_, rfl, hreads⟩]
  rfl

theorem evaluate_call_nil (l : Library) (r : Record) (name : Text) :
    (Node.list [.call name []]).evaluate l r =
      match l.get? name with
      | none => .error (.missingFunction name)
      | some f => .ok (f []) := by
  rw [evaluate, evaluateAll, evaluateAll, evaluate, evaluateAll]
  cases l.get? name <;> simp [pure, Except.pure, bind, Except.bind, Functor.map, Except.map]

end Node

/-- Inserting makes a map in which the last function under a name counts. The names are in order and are those
that were there and those that were inserted, a name is there exactly if it is among them, and it has the
function that was inserted last under it, or the one it had. A pattern that calls a name without arguments
gives what this function gives for none, and fails exactly if there is no such name. -/
theorem Library.insertAll_lastWriter {base : Library} (hbase : base = .empty ∨ base = .builtin)
    (fs : List (Text × Function)) :
    (base.insertAll fs).names.Pairwise (· < ·) ∧
      (∀ n, n ∈ (base.insertAll fs).names ↔ n ∈ base.names ∨ n ∈ fs.map Prod.fst) ∧
      (∀ n, (base.insertAll fs).contains n ↔ n ∈ (base.insertAll fs).names) ∧
      (∀ n f earlier later, fs = earlier ++ (n, f) :: later → n ∉ later.map Prod.fst →
        (base.insertAll fs).get? n = some f) ∧
      (∀ n, n ∉ fs.map Prod.fst → (base.insertAll fs).get? n = base.get? n) ∧
      ∀ n, Node.isName n → ∃ node, Node.compile ('$' :: (n ++ ['(', ')'])) = .ok node ∧ ∀ r,
        (node.evaluate (base.insertAll fs) r = .error (.missingFunction n) ↔
          ¬ (base.insertAll fs).contains n) ∧
        ∀ f, (base.insertAll fs).get? n = some f → node.evaluate (base.insertAll fs) r = .ok (f []) := by
  have hordered : base.Ordered := by
    obtain rfl | rfl := hbase
    · exact ordered_empty
    · exact ordered_builtin
  refine ⟨hordered.insertAll fs, fun n => mem_names_insertAll, fun n => contains_iff_mem_names, ?_, ?_, ?_⟩
  · rintro n f earlier later rfl hlater
    exact get?_insertAll_append hlater base earlier
  · exact fun n hn => get?_insertAll hn base
  · intro n hn
    refine ⟨_, Node.compile_call_nil hn, fun r => ⟨?_, fun f hf => ?_⟩⟩
    · rw [Node.evaluate_call_nil, contains]
      cases (base.insertAll fs).get? n <;> simp
    · rw [Node.evaluate_call_nil, hf]

theorem Library.insertAll_lastWriter_upper :
    let f : Function := fun _ => "shout".toList
    let g : Function := fun args => Text.ofNat args.length
    let fs := [("upper".toList, f), ("Upper".toList, f), ("upper".toList, g), ("a".toList, f)]
    let l := builtin.insertAll fs
    (builtin = .empty ∨ builtin = builtin) ∧ l.names.Pairwise (· < ·) ∧ l.contains "lower".toList ∧
      l.get? "upper".toList = some g ∧ l.get? "lower".toList = some Builtin.lower ∧
      ∃ node, Node.compile "$upper()".toList = .ok node ∧ ∀ r, node.evaluate l r = .ok ['0'] := by
  intro f g fs l
  have hbase : builtin = .empty ∨ builtin = builtin := .inr rfl
  obtain ⟨hordered, hmem, hcontains, hlast, hbefore, hcall⟩ := insertAll_lastWriter hbase fs
  have hupper : l.get? "upper".toList = some g :=
    hlast _ g [("upper".toList, f), ("Upper".toList, f)] [("a".toList, f)] rfl (by decide)
  obtain ⟨node, hnode, hvalue⟩ := hcall "upper".toList rfl
  exact ⟨hbase, hordered, (hcontains _).2 ((hmem _).2 (.inl (by decide))), hupper,
    (hbefore _ (by decide)).trans rfl, node, hnode, fun r => (hvalue r).2 g hupper⟩

end RecordText
