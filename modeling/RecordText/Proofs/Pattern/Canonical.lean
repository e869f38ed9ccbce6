import RecordText.Proofs.Pattern.Reading

namespace RecordText.Node

open Text

mutual

def nesting : Node → Nat
  | .text _ => 0
  | .attribute _ => 0
  | .call _ args => nestingOfAll args + 1
  | .list nodes => nestingOfAll nodes

def nestingOfAll : List Node → Nat
  | [] => 0
  | n :: ns => max n.nesting (nestingOfAll ns)

end

/-- Nodes of a canonical list: a literal text is `%` or plain, two plain ones are never neighbours,
and the arguments of a call are canonical lists that write texts fit for an argument. -/
inductive CanonicalNodes : List Node → Prop
  | nil : CanonicalNodes []
  | percent {nodes} : CanonicalNodes nodes → CanonicalNodes (.text ['%'] :: nodes)
  | text {s nodes} : s ≠ [] → (∀ c ∈ s, isPlain c) →
      (∀ t, nodes.head? = some (.text t) → t = ['%']) → CanonicalNodes nodes →
      CanonicalNodes (.text s :: nodes)
  | attr {name nodes} : name ≠ [] → '%' ∉ name → CanonicalNodes nodes →
      CanonicalNodes (.attribute name :: nodes)
  | call {name nodes} {args : List (List Node)} : isName name → (∀ a ∈ args, CanonicalNodes a) →
      (∀ a ∈ args, IsArgument (print (.list a))) → CanonicalNodes nodes →
      CanonicalNodes (.call name (args.map .list) :: nodes)

def Canonical : Node → Prop
  | .list nodes => CanonicalNodes nodes
  | _ => False

theorem nestingOfAll_le_iff {nodes : List Node} {levels : Nat} :
    nestingOfAll nodes ≤ levels ↔ ∀ n ∈ nodes, n.nesting ≤ levels := by
  induction nodes with
  | nil => simp [nestingOfAll]
  | cons n nodes ih =>
    rw [nestingOfAll, Nat.max_le, ih, List.forall_mem_cons]

theorem printEach_eq_map (nodes : List Node) : printEach nodes = nodes.map print := by
  induction nodes with
  | nil => rfl
  | cons n nodes ih => rw [printEach, ih, List.map_cons]

theorem print_text_of_plain {s : Text} (h : ∀ c ∈ s, isPlain c) : print (.text s) = s := by
  rw [print, if_neg (ne_percent_of_plain h)]

theorem flatten_printEach_call (name : Text) (args nodes : List Node) :
    (printEach (.call name args :: nodes)).flatten =
      '$' :: (name ++ '(' ::
        (joinArguments (printEach args) ++ ')' :: (printEach nodes).flatten)) := by
  simp [printEach, print]

theorem head_printEach {nodes : List Node} (h : CanonicalNodes nodes)
    (hhead : ∀ t, nodes.head? = some (.text t) → t = ['%']) :
    ∀ c ∈ (printEach nodes).flatten.head?, ¬ isPlain c := by
  cases h with
  | nil => simp [printEach]
  | percent _ => simp [printEach, print, isPlain]
  | text _ ht _ _ =>
    obtain rfl := hhead _ rfl
    exact absurd (ht '%' (by simp)) (by decide)
  | attr _ _ _ => simp [printEach, print, isPlain]
  | call _ _ _ _ => simp [printEach, print, isPlain]

def limited {α : Type} (levels depth : Nat) (x : α) : Except PatternError α :=
  if depth ≤ levels then .ok x else .error .tooDeeplyNested

theorem map_limited {α β : Type} (f : α → β) (levels depth : Nat) (x : α) :
    f <$> limited levels depth x = limited levels depth (f x) := by
  unfold limited
  split <;> rfl

theorem limited_bind {α β : Type} (f : α → β) (levels d e : Nat) (x : α) :
    (limited levels d x >>= fun y => limited levels e (f y)) = limited levels (max d e) (f x) := by
  unfold limited
  by_cases hd : d ≤ levels
  · simp only [hd, if_true, Nat.max_le, true_and]
    rfl
  · simp only [hd, if_false, Nat.max_le, false_and]
    rfl

theorem limited_succ {α : Type} (levels depth : Nat) (x : α) :
    limited (levels + 1) (depth + 1) x = limited levels depth x := by
  simp [limited]

theorem mapM_printEach {levels : Nat} {args : List (List Node)}
    (h : ∀ a ∈ args, parseNodes (argumentReader levels) (printEach a).flatten =
      limited levels (nestingOfAll a) a) :
    (printEach (args.map .list)).mapM (parseWithin levels) =
      limited levels (nestingOfAll (args.map .list)) (args.map .list) := by
  induction args with
  | nil => rfl
  | cons a args ih =>
    rw [List.map_cons, printEach, List.mapM_cons, print, parseWithin_eq, h a (by simp),
      map_limited, ih fun b hb => h b (by simp [hb])]
    simp only [bind_pure_comp, map_limited]
    exact limited_bind (· :: args.map list) ..

theorem parseNodes_printEach {nodes : List Node} (h : CanonicalNodes nodes) (levels : Nat) :
    parseNodes (argumentReader levels) (printEach nodes).flatten =
      limited levels (nestingOfAll nodes) nodes := by
  induction h generalizing levels with
  | nil => exact parseNodes_nil
  | percent h ih =>
    rw [nestingOfAll, nesting, Nat.zero_max, ← map_limited, ← ih levels]
    exact parseNodes_percent [] _ List.not_mem_nil
  | text hne ht hhead h ih =>
    rw [nestingOfAll, nesting, Nat.zero_max, ← map_limited, ← ih levels, printEach,
      print_text_of_plain ht]
    exact parseNodes_plain_append hne ht (head_printEach h hhead)
  | @attr name nodes hne hname h ih =>
    rw [nestingOfAll, nesting, Nat.zero_max, ← map_limited, ← ih levels]
    simpa [printEach, print, hne] using parseNodes_percent name (printEach nodes).flatten hname
  | @call name nodes args hname hargs hprint h iha ih =>
    have hcut : ∀ s ∈ printEach (args.map .list), IsArgument s := by
      rw [printEach_eq_map, List.map_map]
      simpa using hprint
    rw [flatten_printEach_call]
    cases levels with
    | zero =>
      rw [parseNodes_call_zero hname, limited, if_neg]
      simp [nestingOfAll, nesting]
    | succ levels =>
      -- The arguments may nest one level less, but the call counts for one more.
      rw [parseNodes_call_succ hname (splitArguments_joinArguments hcut _),
        mapM_printEach fun a ha => iha a ha levels, ih, ← limited_succ levels]
      simp only [bind_pure_comp, map_limited]
      exact limited_bind (fun as => call name as :: nodes) ..

theorem parse_print_list {nodes : List Node} (h : CanonicalNodes nodes) :
    parse (print (.list nodes)) = limited maxNesting (nestingOfAll nodes) (.list nodes) := by
  rw [parse, parseWithin_eq, print, parseNodes_printEach h, map_limited]

/-- A canonical tree is read from what it writes, and only calls that nest too deep prevent it. -/
theorem parse_print {n : Node} (h : n.Canonical) :
    parse n.print = if n.nesting ≤ maxNesting then .ok n else .error .tooDeeplyNested := by
  cases n with
  | list nodes => exact parse_print_list h
  | _ => contradiction

theorem parse_print_trailing_comma :
    CanonicalNodes [.text ['n'], .text ['%'],
        .call ['f'] [.list [.attribute "a(b,c)".toList], .list []]] ∧
      parse "n%%$f(%a(b,c)%,,)".toList =
        .ok (.list [.text ['n'], .text ['%'],
          .call ['f'] [.list [.attribute "a(b,c)".toList], .list []]]) := by
  have hname : CanonicalNodes [.attribute "a(b,c)".toList] := .attr (by decide) (by decide) .nil
  have hcall : CanonicalNodes [.call ['f'] ([[.attribute "a(b,c)".toList], []].map .list)] :=
    .call (by decide) (List.forall_mem_cons.2 ⟨hname, by simp [CanonicalNodes.nil]⟩) (by decide)
      .nil
  have h := CanonicalNodes.text (s := ['n']) (by decide) (by simp [isPlain]) (by simp)
    hcall.percent
  exact ⟨h, (parse_print (n := .list _) h).trans (if_pos (by decide))⟩

end RecordText.Node
