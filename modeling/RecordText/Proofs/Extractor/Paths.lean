import Mathlib.Data.List.TakeDrop
import RecordText.Extractor.Path
import RecordText.Proofs.Extractor.Construction
import RecordText.Proofs.Text.Lines

namespace RecordText

def IsName (s : Text) : Prop := ∀ c ∈ s, ¬ isSeparator c

instance : DecidablePred IsName := fun s => List.decidableBAll (fun c => ¬ isSeparator c) s

def toSlash (c : Char) : Char := if isSeparator c then '/' else c

theorem toSlash_of_isSeparator {c : Char} (h : isSeparator c) : toSlash c = '/' := if_pos h

theorem eq_slash_of_isSeparator {c : Char} (h : isSeparator c) (hback : c ≠ '\\') : c = '/' := by
  simpa [isSeparator, hback] using h

theorem isSeparator_toSlash (c : Char) : isSeparator (toSlash c) = isSeparator c := by
  rw [toSlash]
  split <;> simp_all [isSeparator]

theorem map_toSlash_of_backslash_notMem {s : Text} (h : '\\' ∉ s) : s.map toSlash = s := by
  rw [List.map_congr_left (g := id), List.map_id]
  intro c hc
  rw [toSlash]
  split
  · next hsep => exact (eq_slash_of_isSeparator hsep fun heq => h (heq ▸ hc)).symm
  · rfl

theorem IsName.map_toSlash {s : Text} (h : IsName s) : s.map toSlash = s :=
  map_toSlash_of_backslash_notMem fun hmem => h '\\' hmem rfl

theorem backslash_notMem_intercalate {names : List Text} (hnames : ∀ d ∈ names, IsName d) :
    '\\' ∉ ['/'].intercalate names := by
  intro h
  obtain heq | ⟨name, hname, h⟩ := Text.eq_or_mem_of_mem_intercalate h
  · exact absurd heq (by decide)
  · exact hnames name hname '\\' h rfl

theorem splitOn_intercalate_of_isName {names : List Text} (hne : names ≠ [])
    (hnames : ∀ d ∈ names, IsName d) : (['/'].intercalate names).splitOn '/' = names :=
  List.splitOn_intercalate '/' (fun d hd hmem => hnames d hd '/' hmem rfl) hne

theorem isName_of_mem_splitOn {path name : Text} (h : name ∈ (path.map toSlash).splitOn '/') :
    IsName name := by
  intro c hc hsep
  obtain ⟨hmem, hne⟩ := Extractor.mem_of_mem_splitOn h hc
  obtain ⟨d, -, rfl⟩ := List.mem_map.1 hmem
  rw [isSeparator_toSlash] at hsep
  exact hne (toSlash_of_isSeparator hsep)

theorem pathTail_of_splitOn {path file : Text} {names : List Text} (k : Nat)
    (h : (path.map toSlash).splitOn '/' = names ++ [file]) :
    pathTail k path = ['/'].intercalate
      ((names.drop (names.length - k)).filter (!·.isEmpty) ++ [stripExtension file]) := by
  have hparts : (path.map fun c => if isSeparator c then '/' else c).splitOn '/' = names ++ [file] := h
  rw [pathTail, hparts, List.dropLast_concat, List.getLastD_concat, List.take_reverse,
    List.filter_reverse, List.foldl_reverse, Text.intercalate_concat]

theorem stripExtension_append (stem : Text) {extension : Text} (hne : extension ≠ [])
    (hdot : '.' ∉ extension) : stripExtension (stem ++ '.' :: extension) = stem := by
  have hspan : (stem ++ '.' :: extension).reverse.span (· != '.') =
      (extension.reverse, '.' :: stem.reverse) := by
    rw [List.span_eq_takeWhile_dropWhile, List.reverse_append, List.reverse_cons,
      List.append_assoc, List.takeWhile_append_of_pos (by grind),
      List.dropWhile_append_of_pos (by grind)]
    simp
  rw [stripExtension, hspan]
  cases hreverse : extension.reverse with
  | nil => exact absurd (List.reverse_eq_nil_iff.1 hreverse) hne
  | cons c s => exact List.reverse_reverse stem

theorem stripExtension_isPrefix (file : Text) : stripExtension file <+: file := by
  rw [stripExtension, List.span_eq_takeWhile_dropWhile]
  split
  · next c s d stem hspan =>
    obtain ⟨-, hdrop⟩ := Prod.mk.inj hspan
    have hsuffix : stem <:+ file.reverse :=
      (List.suffix_cons d stem).trans (hdrop ▸ List.dropWhile_suffix _)
    simpa using List.reverse_prefix.2 hsuffix
  · exact List.prefix_refl file

theorem exists_pathTail_eq (k : Nat) (path : Text) :
    ∃ names stem, pathTail k path = ['/'].intercalate (names ++ [stem]) ∧
      (∀ d ∈ names, d ≠ [] ∧ IsName d) ∧ IsName stem := by
  obtain ⟨names, file, hparts, -⟩ := Text.exists_splitOn_eq_concat (path.map toSlash) '/'
  have hname {d : Text} (hd : d ∈ names ++ [file]) : IsName d := isName_of_mem_splitOn (hparts ▸ hd)
  refine ⟨_, _, pathTail_of_splitOn k hparts, ?_, ?_⟩
  · intro d hd
    obtain ⟨hmem, hempty⟩ := List.mem_filter.1 hd
    exact ⟨by simpa using hempty, hname (List.mem_append_left _ (List.mem_of_mem_drop hmem))⟩
  · intro c hc
    exact hname (List.mem_append_right _ (List.mem_singleton_self file)) c
      ((stripExtension_isPrefix file).subset hc)

structure Directory where
  name : Text
  separator : Char
  name_ne_nil : name ≠ []
  isName : IsName name
  isSeparator_separator : isSeparator separator

structure FileName where
  stem : Text
  extension : Text
  isName_stem : IsName stem
  extension_ne_nil : extension ≠ []
  isName_extension : IsName extension
  dot_notMem : '.' ∉ extension

def FileName.text (file : FileName) : Text := file.stem ++ '.' :: file.extension

theorem FileName.isName_text (file : FileName) : IsName file.text := by
  intro c hc
  cases List.mem_append.1 hc with
  | inl hc => exact file.isName_stem c hc
  | inr hc =>
    cases List.mem_cons.1 hc with
    | inl heq =>
      rw [heq]
      decide
    | inr hc => exact file.isName_extension c hc

def under (dirs : List Directory) (file : Text) : Text :=
  dirs.foldr (fun d tail => d.name ++ d.separator :: tail) file

theorem isName_of_mem_names {dirs : List Directory} {name : Text}
    (h : name ∈ dirs.map Directory.name) : IsName name := by
  obtain ⟨d, -, rfl⟩ := List.mem_map.1 h
  exact d.isName

theorem ne_nil_of_mem_names {dirs : List Directory} {name : Text}
    (h : name ∈ dirs.map Directory.name) : name ≠ [] := by
  obtain ⟨d, -, rfl⟩ := List.mem_map.1 h
  exact d.name_ne_nil

theorem map_toSlash_under (dirs : List Directory) {file : Text} (hfile : IsName file) :
    (under dirs file).map toSlash = ['/'].intercalate (dirs.map Directory.name ++ [file]) := by
  rw [Text.intercalate_concat]
  induction dirs with
  | nil => exact hfile.map_toSlash
  | cons d dirs ih =>
    rw [under, List.foldr_cons, List.map_append, List.map_cons, d.isName.map_toSlash,
      toSlash_of_isSeparator d.isSeparator_separator]
    exact congrArg (d.name ++ '/' :: ·) ih

theorem splitOn_under (dirs : List Directory) {file : Text} (hfile : IsName file) :
    ((under dirs file).map toSlash).splitOn '/' = dirs.map Directory.name ++ [file] := by
  rw [map_toSlash_under dirs hfile]
  apply splitOn_intercalate_of_isName (by simp)
  exact List.forall_mem_append.2 ⟨fun _ => isName_of_mem_names, by simpa using hfile⟩

theorem splitOn_append_under (front : Text) {c : Char} (hc : isSeparator c) (dirs : List Directory)
    {file : Text} (hfile : IsName file) :
    ((front ++ c :: under dirs file).map toSlash).splitOn '/' =
      (front.map toSlash).splitOn '/' ++ dirs.map Directory.name ++ [file] := by
  rw [List.map_append, List.map_cons, toSlash_of_isSeparator hc, List.splitOn_append_cons_self,
    splitOn_under dirs hfile, List.append_assoc]

theorem pathTail_eq_of_splitOn {path : Text} {front names : List Text} (file : FileName)
    (hnames : ∀ d ∈ names, d ≠ [])
    (h : (path.map toSlash).splitOn '/' = front ++ names ++ [file.text]) :
    pathTail names.length path = ['/'].intercalate (names ++ [file.stem]) := by
  have hdrop : (front ++ names).drop ((front ++ names).length - names.length) = names := by simp
  have hfilter : names.filter (!·.isEmpty) = names :=
    List.filter_eq_self.2 fun d hd => by simpa using hnames d hd
  rw [pathTail_of_splitOn names.length h, hdrop, hfilter, FileName.text,
    stripExtension_append file.stem file.extension_ne_nil file.dot_notMem]

namespace Extractor

theorem extractFrom_of_path {e : Extractor} (h : e.mode = .path) (s : Text) :
    e.extractFrom s = e.extract (pathTail e.separators s) := by
  rw [extractFrom, h]

/-- A path is matched by its last directories, one for each separator among the literals, and the name
of its file. Neither what stands in front of these nor the extension makes a difference, nor do the
separators. -/
theorem extractFrom_under {e : Extractor} (he : Constructed e) (hmode : e.mode = .path)
    {dirs : List Directory} (hdirs : dirs.length = e.sumOverLiterals (List.countP isSeparator))
    (file : FileName) :
    e.extractFrom (under dirs file.text) =
        e.extract (['/'].intercalate (dirs.map Directory.name ++ [file.stem])) ∧
      ∀ (front : Text) (c : Char), isSeparator c →
        e.extractFrom (front ++ c :: under dirs file.text) =
          e.extract (['/'].intercalate (dirs.map Directory.name ++ [file.stem])) := by
  have hsep : e.separators = (dirs.map Directory.name).length := by
    rw [he.counted, List.length_map, hdirs]
  constructor
  · rw [extractFrom_of_path hmode, hsep]
    congr 1
    exact @pathTail_eq_of_splitOn _ [] _ file (fun _ => ne_nil_of_mem_names)
      (splitOn_under dirs file.isName_text)
  · intro front c hc
    rw [extractFrom_of_path hmode, hsep]
    congr 1
    exact pathTail_eq_of_splitOn file (fun _ => ne_nil_of_mem_names)
      (splitOn_append_under front hc dirs file.isName_text)

theorem extractFrom_under_dots :
    let e := ((compile "%artist%/%album%/".toList .path).1.addSlot "track".toList).addText " - ".toList
    let dirs := [
      Directory.mk "A.B".toList '\\' (by decide) (by decide) (by decide),
      Directory.mk ".hidden".toList '/' (by decide) (by decide) (by decide)]
    let file := FileName.mk "01 - No. 1".toList "mp3".toList (by decide) (by decide) (by decide)
      (by decide)
    let path := "A.B\\.hidden/01 - No. 1.mp3".toList
    (Constructed e ∧ e.mode = .path ∧ dirs.length = e.sumOverLiterals (List.countP isSeparator) ∧
        isSeparator '/' ∧ path = under dirs file.text) ∧
      e.extractFrom path = e.extract "A.B/.hidden/01 - No. 1".toList ∧
      e.extractFrom ("C:\\music.d/".toList ++ '/' :: path) =
        e.extract "A.B/.hidden/01 - No. 1".toList := by
  intro e dirs file path
  have he : Constructed e := .addText _ (.addSlot _ (.compile _ _))
  have hmode : e.mode = .path := by decide
  have hdirs : dirs.length = e.sumOverLiterals (List.countP isSeparator) := by decide
  have hpath := extractFrom_under he hmode hdirs file
  exact ⟨⟨he, hmode, hdirs, rfl, rfl⟩, hpath.1, hpath.2 "C:\\music.d/".toList '/' rfl⟩

end Extractor

end RecordText
