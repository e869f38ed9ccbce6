import Mathlib.Data.List.Destutter
import Mathlib.Data.List.DropRight
import RecordText.Proofs.Extractor.Separators

/-!
Paths in which separators stand directly behind one another. The empty directories between them do not
show in the tail of the path, but are counted among its directories, so that the tail of the path without
them may be longer. From the longer one more patterns extract, and none extracts anything else.
-/

namespace RecordText

def collapse (s : Text) : Text := s.destutter fun a b => ¬ (isSeparator a ∧ isSeparator b)

def directories (path : Text) : List Text := ((path.map toSlash).splitOn '/').dropLast

def fileName (path : Text) : Text := ((path.map toSlash).splitOn '/').getLastD []

theorem splitOn_eq_directories (path : Text) :
    (path.map toSlash).splitOn '/' = directories path ++ [fileName path] := by
  rw [directories, fileName, List.getLastD_eq_getLast?,
    List.getLast?_eq_some_getLast (List.splitOn_ne_nil _ _)]
  exact (List.dropLast_concat_getLast _).symm

theorem isName_directories (path : Text) : ∀ d ∈ directories path, IsName d := by
  intro d hd
  exact isName_of_mem_splitOn (splitOn_eq_directories path ▸ List.mem_append_left _ hd)

theorem isName_fileName (path : Text) : IsName (fileName path) :=
  isName_of_mem_splitOn (splitOn_eq_directories path ▸ List.mem_concat_self)

theorem isName_stripExtension {file : Text} (h : IsName file) : IsName (stripExtension file) :=
  fun c hc => h c ((stripExtension_isPrefix file).subset hc)

theorem pathTail_eq (k : Nat) (path : Text) :
    pathTail k path = ['/'].intercalate
      (((directories path).rtake k).filter (!·.isEmpty) ++ [stripExtension (fileName path)]) :=
  pathTail_of_splitOn k (splitOn_eq_directories path)

/-- The directories without the empty ones between them. An empty one in front of all others stays: the
path then begins with a separator. -/
def dropEmpty : List Text → List Text
  | [] => []
  | d :: dirs => d :: dirs.filter (!·.isEmpty)

theorem filter_dropEmpty (dirs : List Text) :
    (dropEmpty dirs).filter (!·.isEmpty) = dirs.filter (!·.isEmpty) := by
  cases dirs with
  | nil => rfl
  | cons d dirs => simp [dropEmpty, List.filter_cons]

def collapseBehind (a : Char) (s : Text) : Text :=
  s.destutter' (fun a b => ¬ (isSeparator a ∧ isSeparator b)) a

theorem collapseBehind_cons {a c : Char} (h : ¬ (isSeparator a ∧ isSeparator c)) (s : Text) :
    collapseBehind a (c :: s) = a :: collapseBehind c s :=
  List.destutter'_cons_pos _ h

theorem collapseBehind_slash_slash (s : Text) :
    collapseBehind '/' ('/' :: s) = collapseBehind '/' s :=
  List.destutter'_cons_neg _ (not_not_intro ⟨rfl, rfl⟩)

theorem collapseBehind_name {a : Char} {d : Text} (hd : IsName d) (h : isSeparator a → d ≠ [])
    (s : Text) : collapseBehind a (d ++ '/' :: s) = a :: d ++ collapseBehind '/' s := by
  induction d generalizing a with
  | nil => exact collapseBehind_cons (fun hsep => h hsep.1 rfl) s
  | cons c d ih =>
    obtain ⟨hc, hd⟩ := List.forall_mem_cons.1 hd
    rw [List.cons_append, collapseBehind_cons fun hsep => hc hsep.2, ih hd fun hsep => absurd hsep hc]
    rfl

theorem IsName.collapse {s : Text} (h : IsName s) : collapse s = s :=
  List.destutter_of_isChain _ s h.unrepeated

theorem IsName.collapse_slash {s : Text} (h : IsName s) : collapseBehind '/' s = '/' :: s := by
  have hslash : Unrepeated ('/' :: s) :=
    unrepeated_cons_iff.2 ⟨fun _ c hc => h c (List.mem_of_mem_head? hc), h.unrepeated⟩
  exact List.destutter'_of_isChain_cons _ _ hslash

section

variable {dirs : List Text} {file : Text} (hdirs : ∀ d ∈ dirs, IsName d) (hfile : IsName file)
include hdirs hfile

theorem collapseBehind_intercalate : collapseBehind '/' (['/'].intercalate (dirs ++ [file])) =
    '/' :: ['/'].intercalate (dirs.filter (!·.isEmpty) ++ [file]) := by
  simp only [Text.intercalate_concat]
  induction dirs with
  | nil => exact hfile.collapse_slash
  | cons d dirs ih =>
    obtain ⟨hd, hrest⟩ := List.forall_mem_cons.1 hdirs
    cases d with
    | nil => exact (collapseBehind_slash_slash _).trans (ih hrest)
    | cons c d =>
      rw [List.foldr_cons, collapseBehind_name hd fun _ => List.cons_ne_nil c d, ih hrest]
      rfl

theorem collapse_intercalate : collapse (['/'].intercalate (dirs ++ [file])) =
    ['/'].intercalate (dropEmpty dirs ++ [file]) := by
  cases dirs with
  | nil => simpa [dropEmpty] using hfile.collapse
  | cons d dirs =>
    obtain ⟨hd, hdirs⟩ := List.forall_mem_cons.1 hdirs
    have hrest := collapseBehind_intercalate hdirs hfile
    rw [Text.intercalate_concat] at hrest
    rw [Text.intercalate_concat, List.foldr_cons, dropEmpty, List.cons_append,
      List.intercalate_cons_of_ne_nil (by simp), List.append_assoc, List.singleton_append, ← hrest]
    cases d with
    | nil => rfl
    | cons c d =>
      obtain ⟨hc, hd⟩ := List.forall_mem_cons.1 hd
      exact collapseBehind_name hd (fun hsep => absurd hsep hc) _

theorem countP_isSeparator_intercalate :
    (['/'].intercalate (dirs ++ [file])).countP isSeparator = dirs.length := by
  rw [Text.intercalate_concat]
  induction dirs with
  | nil => exact List.countP_eq_zero.2 hfile
  | cons d dirs ih =>
    obtain ⟨hd, hdirs⟩ := List.forall_mem_cons.1 hdirs
    rw [List.foldr_cons, List.countP_append, List.countP_eq_zero.2 hd, List.countP_cons_of_pos rfl,
      ih hdirs, Nat.zero_add, List.length_cons]

end

theorem map_toSlash_collapse (s : Text) : (collapse s).map toSlash = collapse (s.map toSlash) :=
  List.map_destutter fun a _ b _ => by rw [isSeparator_toSlash, isSeparator_toSlash]

theorem map_toSlash_eq_intercalate (path : Text) :
    path.map toSlash = ['/'].intercalate (directories path ++ [fileName path]) := by
  rw [← splitOn_eq_directories, List.intercalate_splitOn]

theorem subset_dropEmpty (dirs : List Text) : dropEmpty dirs ⊆ dirs := by
  cases dirs with
  | nil => exact List.Subset.refl []
  | cons d dirs => exact List.cons_subset_cons d (List.filter_subset_self dirs)

theorem splitOn_collapse (path : Text) : ((collapse path).map toSlash).splitOn '/' =
    dropEmpty (directories path) ++ [fileName path] := by
  have hdirs := isName_directories path
  have hfile := isName_fileName path
  rw [map_toSlash_collapse, map_toSlash_eq_intercalate, collapse_intercalate hdirs hfile]
  apply splitOn_intercalate_of_isName (by simp)
  refine List.forall_mem_append.2 ⟨fun d hd => ?_, by simpa using hfile⟩
  exact hdirs d (subset_dropEmpty _ hd)

section

variable {α : Type} {p : α → Bool} {l : List α} {k : Nat}

theorem rtake_append_of_length_le {a b : List α} (h : b.length ≤ k) :
    (a ++ b).rtake k = b ↔ a = [] ∨ b.length = k := by
  constructor
  · intro heq
    have hlength := congrArg List.length heq
    rw [List.rtake, List.length_drop, List.length_append] at hlength
    rw [← List.length_eq_zero_iff]
    omega
  · rintro (rfl | rfl)
    · rw [List.rtake, List.nil_append, Nat.sub_eq_zero_of_le h, List.drop_zero]
    · rw [List.rtake, List.length_append, Nat.add_sub_cancel, List.drop_left]

theorem rtake_filter_eq_iff : (l.filter p).rtake k = (l.rtake k).filter p ↔
    (∀ x ∈ l.rtake k, p x) ∨ ∀ x ∈ l.rdrop k, ¬ p x := by
  have hsplit : l.filter p = (l.rdrop k).filter p ++ (l.rtake k).filter p := by
    rw [← List.filter_append]
    exact congrArg (List.filter p) (List.take_append_drop _ l).symm
  have hlength : (l.rtake k).length = l.length - (l.length - k) := List.length_drop
  have hfilter := List.length_filter_le p (l.rtake k)
  rw [hsplit, rtake_append_of_length_le (by omega), List.filter_eq_nil_iff, or_comm]
  by_cases hnone : ∀ x ∈ l.rdrop k, ¬ p x
  · exact iff_of_true (.inr hnone) (.inr hnone)
  · have hk : k ≤ l.length := by
      by_contra hlt
      rw [List.rdrop, Nat.sub_eq_zero_of_le (by omega)] at hnone
      exact hnone fun x hx => absurd hx List.not_mem_nil
    rw [or_iff_left hnone, or_iff_left hnone, ← List.length_filter_eq_length_iff]
    omega

end

theorem rtake_filter_dropEmpty (dirs : List Text) (k : Nat) :
    ((dropEmpty dirs).rtake k).filter (!·.isEmpty) = (dirs.filter (!·.isEmpty)).rtake k := by
  rw [← filter_dropEmpty dirs, eq_comm, rtake_filter_eq_iff]
  cases dirs with
  | nil => exact .inl fun d hd => by simp [dropEmpty] at hd
  | cons d dirs =>
    by_cases hk : k ≤ (dirs.filter (!·.isEmpty)).length
    · left
      intro x hx
      rw [List.rtake, dropEmpty, List.length_cons, Nat.succ_sub hk, List.drop_succ_cons] at hx
      exact (List.mem_filter.1 (List.mem_of_mem_drop hx)).2
    · right
      intro x hx
      rw [List.rdrop, dropEmpty, List.length_cons, Nat.sub_eq_zero_of_le (by omega)] at hx
      exact absurd hx List.not_mem_nil

theorem pathTail_collapse (k : Nat) (path : Text) : pathTail k (collapse path) =
    ['/'].intercalate (((directories path).filter (!·.isEmpty)).rtake k ++
      [stripExtension (fileName path)]) := by
  rw [← rtake_filter_dropEmpty]
  exact pathTail_of_splitOn k (splitOn_collapse path)

theorem intercalate_concat_inj {dirs others : List Text} {file : Text}
    (hdirs : ∀ d ∈ dirs, IsName d) (hothers : ∀ d ∈ others, IsName d) (hfile : IsName file) :
    ['/'].intercalate (dirs ++ [file]) = ['/'].intercalate (others ++ [file]) ↔ dirs = others := by
  refine ⟨fun heq => ?_, fun heq => by rw [heq]⟩
  have hsplit {names : List Text} (hnames : ∀ d ∈ names, IsName d) :
      (['/'].intercalate (names ++ [file])).splitOn '/' = names ++ [file] :=
    splitOn_intercalate_of_isName (by simp)
      (List.forall_mem_append.2 ⟨hnames, by simpa using hfile⟩)
  refine List.append_cancel_right (?_ : dirs ++ [file] = others ++ [file])
  rw [← hsplit hdirs, heq, hsplit hothers]

theorem isName_of_mem_rtake {path d : Text} {k : Nat}
    (h : d ∈ ((directories path).rtake k).filter (!·.isEmpty)) : IsName d :=
  isName_directories path d (List.mem_of_mem_drop (List.mem_of_mem_filter h))

theorem pathTail_collapse_eq_iff (k : Nat) (path : Text) : pathTail k (collapse path) = pathTail k path ↔
    [] ∉ (directories path).rtake k ∨ ∀ d ∈ (directories path).rdrop k, d = [] := by
  rw [pathTail_collapse, pathTail_eq, intercalate_concat_inj, rtake_filter_eq_iff]
  · simp only [Bool.not_eq_true', List.isEmpty_eq_false_iff, not_not, List.forall_mem_ne']
  · exact fun d hd => isName_directories path d (List.mem_of_mem_filter (List.mem_of_mem_drop hd))
  · exact fun _ => isName_of_mem_rtake
  · exact isName_stripExtension (isName_fileName path)

theorem countP_isSeparator_pathTail (k : Nat) (path : Text) : (pathTail k path).countP isSeparator =
    (((directories path).rtake k).filter (!·.isEmpty)).length := by
  rw [pathTail_eq]
  exact countP_isSeparator_intercalate (fun _ => isName_of_mem_rtake)
    (isName_stripExtension (isName_fileName path))

theorem Text.Places.sum_countP_le {words : List Text} {s rest : Text} (h : Places words s rest)
    (p : Char → Bool) : (words.map (List.countP p)).sum ≤ s.countP p := by
  induction h with
  | nil => exact Nat.zero_le _
  | cons _ ih =>
    simp only [List.map_cons, List.sum_cons, List.countP_append]
    omega

namespace Extractor

theorem eq_of_extract_eq {e : Extractor} {a b l s t : Text} (hne : a ≠ b)
    (he : e.pieces = [.slot a, .literal l, .slot b]) (h : e.extract s = e.extract t) : s = t := by
  have hextract (u : Text) : e.extract u = (Text.cut? l u).elim (.mk .empty (some (.notFound l u)))
      fun parts => .mk ((Record.empty.set a parts.1).set b parts.2) none := by
    rw [extract, he]
    cases hcut : Text.cut? l u <;> simp [scan, hcut, Record.fill, Record.capture?, hne.symm]
  rw [hextract, hextract] at h
  cases hs : Text.cut? l s with
  | none => cases ht : Text.cut? l t <;> simp_all
  | some parts =>
    cases ht : Text.cut? l t with
    | none => simp_all
    | some others =>
      simp only [hs, ht, Option.elim_some, Extraction.mk.injEq, and_true] at h
      have hbefore := congrArg (Record.get? · a) h
      have hafter := congrArg (Record.get? · b) h
      simp only [Record.get?_set, hne, if_false, if_true, Option.some.injEq] at hbefore hafter
      rw [(Text.cut?_eq_some_iff.1 hs).1, (Text.cut?_eq_some_iff.1 ht).1, hbefore, hafter]

/-- Some extractor tells all texts apart, even those that it does not extract from. -/
theorem exists_extract_injective (k : Nat) : ∃ e, Constructed e ∧ e.mode = .path ∧
    e.sumOverLiterals (List.countP isSeparator) = k ∧ Function.Injective e.extract := by
  let e := (((empty .path).addSlot ['a']).addText ('x' :: List.replicate k '/')).addSlot ['b']
  have he : Constructed e := .addSlot _ (.addText _ (.addSlot _ (.empty .path)))
  refine ⟨e, he, rfl, ?_, fun _ _ => @eq_of_extract_eq e ['a'] ['b'] _ _ _ (by decide) rfl⟩
  rw [← he.counted]
  simp [e, addSlot, empty, isSeparator, List.countP_replicate]

section

variable {e : Extractor} (he : Constructed e) (hmode : e.mode = .path)
include he hmode

theorem extractFrom_collapse_of_isOk {path : Text} (hok : (e.extractFrom path).isOk) :
    e.extractFrom (collapse path) = e.extractFrom path := by
  rw [extractFrom_of_path hmode] at hok
  rw [extractFrom_of_path hmode, extractFrom_of_path hmode]
  congr 1
  rw [pathTail_collapse_eq_iff]
  left
  -- All separators of the literals stand in the tail, and each has one of the counted directories.
  obtain ⟨-, rest, hplaces⟩ := extract_isOk hok
  have hcount := hplaces.sum_countP_le isSeparator
  rw [← sumOverLiterals_eq_sum, ← he.counted, countP_isSeparator_pathTail] at hcount
  have hlength : ((directories path).rtake e.separators).length ≤ e.separators := by
    rw [List.rtake, List.length_drop]
    omega
  have hall := List.length_filter_eq_length_iff.1
    (Nat.le_antisymm (List.length_filter_le _ _) (hlength.trans hcount))
  simpa using hall []

/-- The tail of a path has the directories that are not empty among as many of the last as the literals
have separators, and the tail of the path without empty directories has as many of the last that are not
empty. Only an empty one among the last that are counted makes a difference, if it has one in front of it
that is not empty. What is extracted is then the same or nothing. -/
theorem extractFrom_collapse_iff (path : Text) :
    let k := e.sumOverLiterals (List.countP isSeparator)
    let dirs := directories path
    let stem := stripExtension (fileName path)
    e.extractFrom path =
        e.extract (['/'].intercalate ((dirs.rtake k).filter (!·.isEmpty) ++ [stem])) ∧
      e.extractFrom (collapse path) =
        e.extract (['/'].intercalate ((dirs.filter (!·.isEmpty)).rtake k ++ [stem])) ∧
      ((e.extractFrom path).isOk → e.extractFrom (collapse path) = e.extractFrom path) ∧
      ((∀ f, Constructed f → f.mode = .path → f.sumOverLiterals (List.countP isSeparator) = k →
          f.extractFrom (collapse path) = f.extractFrom path) ↔
        [] ∉ dirs.rtake k ∨ ∀ d ∈ dirs.rdrop k, d = []) := by
  intro k dirs stem
  have hk : e.separators = k := he.counted
  refine ⟨?_, ?_, extractFrom_collapse_of_isOk he hmode, ?_⟩
  · rw [extractFrom_of_path hmode, pathTail_eq, hk]
  · rw [extractFrom_of_path hmode, pathTail_collapse, hk]
  · rw [← pathTail_collapse_eq_iff]
    constructor
    · intro h
      obtain ⟨f, hf, hfmode, hfk, hinj⟩ := exists_extract_injective k
      have heq := h f hf hfmode hfk
      rw [extractFrom_of_path hfmode, extractFrom_of_path hfmode, hf.counted, hfk] at heq
      exact hinj heq
    · intro htail f hf hfmode hfk
      rw [extractFrom_of_path hfmode, extractFrom_of_path hfmode, hf.counted, hfk, htail]

end

theorem extractFrom_collapse_iff_doubled :
    let e := (compile "%x%/%y%/%z%".toList .path).1
    let path := "r/a//b\\\\c.d/t.txt".toList
    let k := e.sumOverLiterals (List.countP isSeparator)
    let dirs := directories path
    let stem := stripExtension (fileName path)
    (Constructed e ∧ e.mode = .path) ∧
      e.extractFrom path =
        e.extract (['/'].intercalate ((dirs.rtake k).filter (!·.isEmpty) ++ [stem])) ∧
      e.extractFrom (collapse path) =
        e.extract (['/'].intercalate ((dirs.filter (!·.isEmpty)).rtake k ++ [stem])) ∧
      ((e.extractFrom path).isOk → e.extractFrom (collapse path) = e.extractFrom path) ∧
      ((∀ f, Constructed f → f.mode = .path → f.sumOverLiterals (List.countP isSeparator) = k →
          f.extractFrom (collapse path) = f.extractFrom path) ↔
        [] ∉ dirs.rtake k ∨ ∀ d ∈ dirs.rdrop k, d = []) := by
  intro e path k dirs stem
  have he : Constructed e := .compile _ _
  have hmode : e.mode = .path := by decide
  exact ⟨⟨he, hmode⟩, extractFrom_collapse_iff he hmode path⟩

/-- An empty directory takes the place of one that the literals have a separator for. -/
theorem not_forall_extractFrom_collapse :
    ¬ ∀ (e : Extractor) (path : Text), Constructed e → e.mode = .path →
      e.extractFrom (collapse path) = e.extractFrom path := by
  intro h
  have heq := h (compile "%a%/%b%".toList .path).1 "x//y.txt".toList (.compile _ _) (by decide)
  exact absurd (congrArg Extraction.isOk heq) (by decide)

end Extractor

end RecordText
