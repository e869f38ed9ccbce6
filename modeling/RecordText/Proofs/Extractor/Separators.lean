import RecordText.Proofs.Extractor.Building
import RecordText.Proofs.Extractor.Padding
import RecordText.Proofs.Extractor.Paths
import RecordText.Proofs.Extractor.Success

namespace RecordText

def Unrepeated (s : Text) : Prop := s.IsChain fun a b => ¬ (isSeparator a ∧ isSeparator b)

instance : DecidablePred Unrepeated := fun _ => inferInstanceAs (Decidable (List.IsChain _ _))

theorem unrepeated_cons_iff {c : Char} {s : Text} :
    Unrepeated (c :: s) ↔ (isSeparator c → ∀ d ∈ s.head?, ¬ isSeparator d) ∧ Unrepeated s := by
  rw [Unrepeated, List.isChain_cons]
  apply and_congr_left
  intro _
  simp only [not_and]
  exact ⟨fun h hc d hd => h d hd hc, fun h d hd hc => h hc d hd⟩

theorem IsName.unrepeated_append_iff {d s : Text} (hd : IsName d) :
    Unrepeated (d ++ s) ↔ Unrepeated s := by
  induction d with
  | nil => rfl
  | cons c d ih =>
    obtain ⟨hc, hd⟩ := List.forall_mem_cons.1 hd
    rw [List.cons_append, unrepeated_cons_iff, ih hd]
    exact and_iff_right fun h => absurd h hc

theorem IsName.unrepeated {d : Text} (hd : IsName d) : Unrepeated d := by
  rw [← List.append_nil d, hd.unrepeated_append_iff]
  exact .nil

theorem unrepeated_map_toSlash_iff {s : Text} : Unrepeated (s.map toSlash) ↔ Unrepeated s := by
  simp only [Unrepeated, List.isChain_map, isSeparator_toSlash]

theorem unrepeated_intercalate_iff {names : List Text} {stem : Text}
    (hnames : ∀ d ∈ names, IsName d) (hstem : IsName stem) :
    Unrepeated ('/' :: ['/'].intercalate (names ++ [stem])) ↔ [] ∉ names := by
  rw [Text.intercalate_concat]
  induction names with
  | nil =>
    refine iff_of_true (unrepeated_cons_iff.2 ⟨fun _ d hd => ?_, hstem.unrepeated⟩) List.not_mem_nil
    exact hstem d (List.mem_of_mem_head? hd)
  | cons d names ih =>
    obtain ⟨hd, hnames⟩ := List.forall_mem_cons.1 hnames
    rw [List.foldr_cons, unrepeated_cons_iff, hd.unrepeated_append_iff, ih hnames, List.mem_cons, not_or]
    apply and_congr_left
    intro _
    cases d with
    | nil => simp [isSeparator]
    | cons c d => simpa using fun _ => hd c List.mem_cons_self

theorem unrepeated_pathTail (k : Nat) (path : Text) : Unrepeated (pathTail k path) := by
  obtain ⟨names, stem, htail, hnames, hstem⟩ := exists_pathTail_eq k path
  rw [htail]
  refine (unrepeated_cons_iff.1 ((unrepeated_intercalate_iff ?_ hstem).2 ?_)).2
  · exact fun d hd => (hnames d hd).2
  · exact fun hnil => (hnames [] hnil).1 rfl

theorem backslash_notMem_pathTail (k : Nat) (path : Text) : '\\' ∉ pathTail k path := by
  obtain ⟨names, stem, htail, hnames, hstem⟩ := exists_pathTail_eq k path
  rw [htail]
  apply backslash_notMem_intercalate
  exact List.forall_mem_append.2 ⟨fun d hd => (hnames d hd).2, by simpa using hstem⟩

theorem countP_isSeparator_of_backslash_notMem {s : Text} (h : '\\' ∉ s) :
    s.countP isSeparator = s.count '/' := by
  apply List.countP_congr
  intro c hc
  constructor
  · intro hsep
    rw [eq_slash_of_isSeparator hsep fun heq => h (heq ▸ hc)]
    rfl
  · intro heq
    rw [eq_of_beq heq]
    rfl

theorem exists_names {s : Text} (h : '\\' ∉ s) :
    ∃ names stem, s = ['/'].intercalate (names ++ [stem]) ∧ names.length = s.countP isSeparator ∧
      (∀ d ∈ names, IsName d) ∧ IsName stem := by
  obtain ⟨names, stem, hparts, -⟩ := Text.exists_splitOn_eq_concat s '/'
  refine ⟨names, stem, by rw [← hparts, List.intercalate_splitOn], ?_, ?_⟩
  · have hlength := Extractor.length_splitOn s '/'
    rw [hparts, List.length_append, List.length_singleton] at hlength
    rw [countP_isSeparator_of_backslash_notMem h]
    exact Nat.succ.inj hlength
  · have hname : ∀ d ∈ names ++ [stem], IsName d := by
      intro d hd
      rw [← hparts, ← map_toSlash_of_backslash_notMem h] at hd
      exact isName_of_mem_splitOn hd
    obtain ⟨hnames, hstem⟩ := List.forall_mem_append.1 hname
    exact ⟨hnames, hstem stem (List.mem_singleton_self stem)⟩

theorem exists_pathTail_countP_eq {s : Text} (hs : Unrepeated ('/' :: s)) (hback : '\\' ∉ s) :
    ∃ path, pathTail (s.countP isSeparator) path = s := by
  obtain ⟨names, stem, rfl, hlength, hnames, hstem⟩ := exists_names hback
  rw [unrepeated_intercalate_iff hnames hstem] at hs
  -- Any extension will do. There must be one, as a dot in the text would begin it otherwise.
  let file := FileName.mk stem ['x'] hstem (by decide) (by decide) (by decide)
  have hparts : ∀ d ∈ names ++ [file.text], IsName d :=
    List.forall_mem_append.2 ⟨hnames, by simpa using file.isName_text⟩
  refine ⟨['/'].intercalate (names ++ [file.text]), ?_⟩
  rw [← hlength]
  apply @pathTail_eq_of_splitOn _ [] names file
  · exact fun d hd hnil => hs (hnil ▸ hd)
  · rw [map_toSlash_of_backslash_notMem (backslash_notMem_intercalate hparts),
      splitOn_intercalate_of_isName (by simp) hparts]
    rfl

theorem Unrepeated.append {s t : Text} (hs : Unrepeated s) (ht : Unrepeated ('/' :: t)) :
    Unrepeated (s ++ t) := by
  obtain ⟨hhead, ht⟩ := unrepeated_cons_iff.1 ht
  exact List.isChain_append.2 ⟨hs, ht, fun _ _ d hd hsep => hhead rfl d hd hsep.2⟩

namespace Extractor

open Piece

/-- What keeps a slash at the beginning of a literal apart from the slashes in front of it. -/
def slashPad (l : Text) : Text := if l.head? = some '/' then ['_'] else []

theorem normalize_slashPad (l : Text) : (slashPad l).normalize = [] := by
  rw [slashPad]
  split <;> decide

theorem isName_slashPad (l : Text) : IsName (slashPad l) := by
  rw [slashPad]
  split <;> decide

theorem firstBehind_slashPad (l : Text) : Text.FirstBehind l (slashPad l) := by
  rw [slashPad]
  split
  · next hl => exact Text.firstBehind_singleton hl (by decide)
  · exact Text.firstBehind_nil l

theorem unrepeated_slashPad_append {l : Text} (hl : Unrepeated l) (hback : '\\' ∉ l) :
    Unrepeated ('/' :: (slashPad l ++ l)) := by
  rw [unrepeated_cons_iff, (isName_slashPad l).unrepeated_append_iff]
  refine ⟨fun _ c hc hsep => ?_, hl⟩
  rw [slashPad] at hc
  split at hc
  · rw [← Option.some.inj hc] at hsep
    exact absurd hsep (by decide)
  · next hslash =>
    rw [eq_slash_of_isSeparator hsep fun heq => hback (heq ▸ List.mem_of_mem_head? hc)] at hc
    exact hslash hc

theorem unrepeated_padding {ls : List Text} (hls : ∀ l ∈ ls, '\\' ∉ l ∧ Unrepeated l) :
    Unrepeated ('/' :: padding slashPad ls) := by
  induction ls with
  | nil => exact .singleton '/'
  | cons l ls ih =>
    obtain ⟨⟨hback, hl⟩, hls⟩ := List.forall_mem_cons.1 hls
    exact (unrepeated_slashPad_append hl hback).append (ih hls)

theorem backslash_notMem_padding {ls : List Text} (hls : ∀ l ∈ ls, '\\' ∉ l) :
    '\\' ∉ padding slashPad ls := by
  intro h
  obtain ⟨l, hl, h⟩ := List.mem_flatMap.1 h
  cases List.mem_append.1 h with
  | inl h => exact isName_slashPad l '\\' h rfl
  | inr h => exact hls l hl h

theorem countP_padding (ls : List Text) :
    (padding slashPad ls).countP isSeparator = (ls.map (List.countP isSeparator)).sum := by
  induction ls with
  | nil => rfl
  | cons l ls ih =>
    have hpad : (slashPad l).countP isSeparator = 0 := List.countP_eq_zero.2 (isName_slashPad l)
    rw [padding_cons, List.countP_append, List.countP_append, ih, hpad, Nat.zero_add]
    rfl

theorem exists_extractFrom_isOk_iff {e : Extractor} (he : Constructed e) (hmode : e.mode = .path) :
    (∃ path, (e.extractFrom path).isOk) ↔
      Separated e.pieces ∧ (∀ l ∈ e.literals, '\\' ∉ l) ∧ ∀ l ∈ e.literals, Unrepeated l := by
  constructor
  · rintro ⟨path, hok⟩
    rw [extractFrom_of_path hmode] at hok
    obtain ⟨hsep, rest, hplaces⟩ := extract_isOk hok
    refine ⟨hsep, fun l hl hback => ?_, fun l hl => ?_⟩
    · exact backslash_notMem_pathTail _ _ ((hplaces.isInfix_of_mem hl).subset hback)
    · exact List.IsChain.infix (unrepeated_pathTail _ _) (hplaces.isInfix_of_mem hl)
  · rintro ⟨hsep, hback, hls⟩
    -- The padded literals have as many slashes as the extractor counts, so that a path keeps them.
    obtain ⟨path, hpath⟩ := exists_pathTail_countP_eq
      (unrepeated_padding fun l hl => ⟨hback l hl, hls l hl⟩) (backslash_notMem_padding hback)
    rw [countP_padding, ← sumOverLiterals_eq_sum, ← he.counted] at hpath
    refine ⟨path, ?_⟩
    rw [extractFrom_of_path hmode, hpath]
    exact extract_padding_isOk normalize_slashPad (fun l _ => firstBehind_slashPad l) hsep

end Extractor

namespace Piece

def slashed : Piece → Piece
  | literal s => literal (s.map toSlash)
  | slot name => slot name

@[simp] theorem slot?_slashed (p : Piece) : p.slashed.slot? = p.slot? := by cases p <;> rfl

@[simp] theorem literal?_slashed (p : Piece) :
    p.slashed.literal? = p.literal?.map (List.map toSlash) := by
  cases p <;> rfl

theorem filterMap_slot?_map_slashed (ps : List Piece) :
    (ps.map slashed).filterMap slot? = ps.filterMap slot? := by
  simp [List.filterMap_map]

theorem filterMap_literal?_map_slashed (ps : List Piece) :
    (ps.map slashed).filterMap literal? = (ps.filterMap literal?).map (List.map toSlash) := by
  simp [List.filterMap_map, List.map_filterMap]

theorem separated_map_slashed_iff {ps : List Piece} :
    Separated (ps.map slashed) ↔ Separated ps := by
  simp [Separated, List.isChain_map]

theorem map_slashed_of_backslash_notMem {ps : List Piece}
    (h : ∀ l ∈ ps.filterMap literal?, '\\' ∉ l) : ps.map slashed = ps := by
  induction ps with
  | nil => rfl
  | cons p ps ih =>
    cases p with
    | slot name => exact congrArg (slot name :: ·) (ih h)
    | literal l =>
      obtain ⟨hl, hps⟩ := List.forall_mem_cons.1 h
      simp [slashed, map_toSlash_of_backslash_notMem hl, ih hps]

theorem literal_nil_mem_map_slashed_iff {ps : List Piece} :
    .literal [] ∈ ps.map slashed ↔ .literal [] ∈ ps := by
  have heq (p : Piece) : p.slashed = .literal [] ↔ p = .literal [] := by
    cases p <;> simp [slashed]
  simp [heq]

theorem toSlash_eq_percent_iff {c : Char} : toSlash c = '%' ↔ c = '%' := by
  rw [toSlash]
  split
  · next hsep =>
    refine iff_of_false (by decide) ?_
    rintro rfl
    exact absurd hsep (by decide)
  · rfl

theorem percent_mem_map_toSlash_iff {s : Text} : '%' ∈ s.map toSlash ↔ '%' ∈ s := by
  simp [toSlash_eq_percent_iff]

theorem head?_map_toSlash_eq_percent_iff {s : Text} :
    (s.map toSlash).head? = some '%' ↔ s.head? = some '%' := by
  simp [toSlash_eq_percent_iff]

theorem spellable_map_slashed_iff {ps : List Piece} :
    Spellable (ps.map slashed) ↔ Spellable ps := by
  rw [spellable_iff, spellable_iff, filterMap_slot?_map_slashed, filterMap_literal?_map_slashed]
  refine and_congr Iff.rfl (and_congr ?_ ?_)
  · simp only [List.forall_mem_map, ← List.map_tail, percent_mem_map_toSlash_iff]
  · simp only [List.isChain_map, literal?_slashed, Option.isSome_map, Option.mem_def,
      Option.map_eq_some_iff, forall_exists_index, and_imp, forall_apply_eq_imp_iff₂,
      head?_map_toSlash_eq_percent_iff]

end Piece

def Extraction.SameOutcome (x y : Extraction) : Prop :=
  x.isOk = y.isOk ∧ (x.isOk → x.captures = y.captures)

namespace Extractor

open Piece

section

variable {e f : Extractor} (he : Constructed e) (hf : Constructed f)
  (h : e.pieces.map slashed = f.pieces.map slashed)
include h

theorem literals_map_toSlash_eq :
    e.literals.map (List.map toSlash) = f.literals.map (List.map toSlash) := by
  rw [literals, literals, ← filterMap_literal?_map_slashed, h, filterMap_literal?_map_slashed]

theorem separated_iff_of_slashed : Separated e.pieces ↔ Separated f.pieces := by
  rw [← separated_map_slashed_iff, h, separated_map_slashed_iff]

theorem forall_unrepeated_iff_of_slashed :
    (∀ l ∈ e.literals, Unrepeated l) ↔ ∀ l ∈ f.literals, Unrepeated l := by
  have hunrepeated (g : Extractor) :
      (∀ l ∈ g.literals, Unrepeated l) ↔ ∀ l ∈ g.literals.map (List.map toSlash), Unrepeated l := by
    simp only [List.forall_mem_map, unrepeated_map_toSlash_iff]
  rw [hunrepeated e, literals_map_toSlash_eq h, ← hunrepeated f]

include he hf

theorem separators_eq_of_slashed : e.separators = f.separators := by
  have hcount (g : Extractor) (hg : Constructed g) : g.separators =
      ((g.literals.map (List.map toSlash)).map (List.countP isSeparator)).sum := by
    rw [hg.counted, sumOverLiterals_eq_sum, List.map_map]
    congr 2
    funext l
    simp only [Function.comp_apply, List.countP_map]
    congr 1
    funext c
    exact (isSeparator_toSlash c).symm
  rw [hcount e he, literals_map_toSlash_eq h, ← hcount f hf]

theorem eq_of_slashed (hmode : e.mode = f.mode) (heback : ∀ l ∈ e.literals, '\\' ∉ l)
    (hfback : ∀ l ∈ f.literals, '\\' ∉ l) : e = f := by
  have hpieces : e.pieces = f.pieces := by
    rwa [map_slashed_of_backslash_notMem heback, map_slashed_of_backslash_notMem hfback] at h
  have hsep := separators_eq_of_slashed he hf h
  cases e
  cases f
  simp_all

theorem forall_sameOutcome_iff (hemode : e.mode = .path) (hfmode : f.mode = .path) :
    (∀ path, (e.extractFrom path).SameOutcome (f.extractFrom path)) ↔
      ((∃ path, (e.extractFrom path).isOk) ↔ ∃ path, (f.extractFrom path).isOk) := by
  constructor
  · intro hsame
    exact exists_congr fun path => by rw [(hsame path).1]
  · intro hiff path
    by_cases hok : ∃ path, (e.extractFrom path).isOk
    · obtain ⟨-, heback, -⟩ := (exists_extractFrom_isOk_iff he hemode).1 hok
      obtain ⟨-, hfback, -⟩ := (exists_extractFrom_isOk_iff hf hfmode).1 (hiff.1 hok)
      rw [eq_of_slashed he hf h (hemode.trans hfmode.symm) heback hfback]
      exact ⟨rfl, fun _ => rfl⟩
    · have heok : ¬ (e.extractFrom path).isOk := fun hpath => hok ⟨path, hpath⟩
      have hfok : ¬ (f.extractFrom path).isOk := fun hpath => hok (hiff.2 ⟨path, hpath⟩)
      exact ⟨by simp [heok, hfok], fun hpath => absurd hpath heok⟩

theorem forall_sameOutcome_iff_backslash (hemode : e.mode = .path) (hfmode : f.mode = .path) :
    (∀ path, (e.extractFrom path).SameOutcome (f.extractFrom path)) ↔
      (Separated e.pieces → (∀ l ∈ e.literals, Unrepeated l) →
        ((∃ l ∈ e.literals, '\\' ∈ l) ↔ ∃ l ∈ f.literals, '\\' ∈ l)) := by
  rw [forall_sameOutcome_iff he hf h hemode hfmode, exists_extractFrom_isOk_iff he hemode,
    exists_extractFrom_isOk_iff hf hfmode, ← separated_iff_of_slashed h,
    ← forall_unrepeated_iff_of_slashed h]
  have hback (g : Extractor) :
      (∀ l ∈ g.literals, '\\' ∉ l) ↔ ¬ ∃ l ∈ g.literals, '\\' ∈ l := by
    simp
  rw [hback e, hback f, and_congr_right_iff, and_congr_left_iff, not_iff_not]

end

theorem compile_print_of_slashed {p : Text} {qs : List Piece} {m : Mode}
    (hclosed : (compile p m).2 = none)
    (hqs : qs.map slashed = (compile p m).1.pieces.map slashed) :
    (compile (qs.flatMap Piece.print) m).2 = none ∧
      (compile (qs.flatMap Piece.print) m).1.pieces = qs := by
  have hspells := spells_compile hclosed
  have hspellable : Spellable qs := by
    rw [← spellable_map_slashed_iff, hqs, spellable_map_slashed_iff]
    exact hspells.spellable
  have hne : .literal [] ∉ qs := by
    rw [← literal_nil_mem_map_slashed_iff, hqs, literal_nil_mem_map_slashed_iff]
    exact hspells.literal_nil_notMem
  rw [(spells_print hspellable hne).compile_eq m, pieces_build]
  refine ⟨rfl, List.filter_eq_self.2 fun q hq => ?_⟩
  simpa using fun heq : q = .literal [] => hne (heq ▸ hq)

/-- With other separators in its literals a pattern for paths is a pattern still. Both give the same for
every path exactly if both have backslashes or none of them has, unless slots that meet or separators
that meet keep them from extracting at all. -/
theorem extractFrom_slashed_iff {p : Text} {qs : List Piece} (hclosed : (compile p .path).2 = none)
    (hqs : qs.map slashed = (compile p .path).1.pieces.map slashed) :
    let e := (compile p .path).1
    let f := (compile (qs.flatMap Piece.print) .path).1
    (compile (qs.flatMap Piece.print) .path).2 = none ∧ f.pieces = qs ∧
      ((∀ path, (e.extractFrom path).SameOutcome (f.extractFrom path)) ↔
        (Separated e.pieces → (∀ l ∈ e.literals, Unrepeated l) →
          ((∃ l ∈ e.literals, '\\' ∈ l) ↔ ∃ l ∈ f.literals, '\\' ∈ l))) := by
  intro e f
  obtain ⟨hq, hpieces⟩ := compile_print_of_slashed hclosed hqs
  have hslashed : e.pieces.map slashed = f.pieces.map slashed := by
    rw [hpieces]
    exact hqs.symm
  have hmode (q : Text) : (compile q .path).1.mode = .path := mode_addParts (empty .path) [] _
  exact ⟨hq, hpieces, forall_sameOutcome_iff_backslash (.compile p .path) (.compile _ .path) hslashed
    (hmode p) (hmode _)⟩

theorem extractFrom_slashed_iff_mixed :
    let p := "%a%\\%b%/%%%c%".toList
    let qs := [slot ['a'], .literal ['/'], .slot ['b'], .literal ['\\'], .literal ['%'], .slot ['c']]
    let e := (compile p .path).1
    let f := (compile (qs.flatMap Piece.print) .path).1
    ((compile p .path).2 = none ∧ qs.map slashed = (compile p .path).1.pieces.map slashed) ∧
      (compile (qs.flatMap Piece.print) .path).2 = none ∧ f.pieces = qs ∧
      ((∀ path, (e.extractFrom path).SameOutcome (f.extractFrom path)) ↔
        (Separated e.pieces → (∀ l ∈ e.literals, Unrepeated l) →
          ((∃ l ∈ e.literals, '\\' ∈ l) ↔ ∃ l ∈ f.literals, '\\' ∈ l))) := by
  intro p qs e f
  have hclosed : (compile p .path).2 = none := by decide
  have hqs : qs.map slashed = (compile p .path).1.pieces.map slashed := by decide
  exact ⟨⟨hclosed, hqs⟩, extractFrom_slashed_iff hclosed hqs⟩

/-- A backslash in a literal makes a directory count, but is found in no path. -/
theorem not_forall_slashed_sameOutcome :
    ¬ ∀ (p : Text) (qs : List Piece) (path : Text), (compile p .path).2 = none →
      qs.map slashed = (compile p .path).1.pieces.map slashed →
      ((compile p .path).1.extractFrom path).SameOutcome
        ((compile (qs.flatMap Piece.print) .path).1.extractFrom path) := by
  intro h
  have hsame := h "%a%\\%b%".toList [slot ['a'], .literal ['/'], .slot ['b']] "x/y.txt".toList
    (by decide) (by decide)
  exact absurd hsame.1 (by decide)

end Extractor

end RecordText
