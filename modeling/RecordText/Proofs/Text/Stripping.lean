import Mathlib.Data.List.DropRight
import RecordText.Text.Blank

namespace RecordText.Text

variable {p : Char → Bool} {c : Char} {s : Text}

theorem stripStart_cons_of_pos (h : p c) (s : Text) : stripStart p (c :: s) = stripStart p s :=
  List.dropWhile_cons_of_pos h

theorem stripStart_cons_of_neg (h : p c = false) (s : Text) : stripStart p (c :: s) = c :: s :=
  List.dropWhile_cons_of_neg (by simp [h])

theorem stripEnd_concat_of_pos (h : p c) (s : Text) : stripEnd p (s ++ [c]) = stripEnd p s :=
  List.rdropWhile_concat_pos p s c h

theorem stripEnd_concat_of_neg (h : p c = false) (s : Text) : stripEnd p (s ++ [c]) = s ++ [c] :=
  List.rdropWhile_concat_neg p s c (by simp [h])

theorem stripStart_isSuffix (p : Char → Bool) (s : Text) : stripStart p s <:+ s := List.dropWhile_suffix p

theorem stripEnd_isPrefix (p : Char → Bool) (s : Text) : stripEnd p s <+: s := List.rdropWhile_prefix p s

theorem strip_isInfix (p : Char → Bool) (s : Text) : strip p s <:+: s :=
  (stripEnd_isPrefix p _).isInfix.trans (stripStart_isSuffix p s).isInfix

theorem of_mem_head?_stripStart (h : c ∈ (stripStart p s).head?) : p c = false := by
  have hhead := List.head?_dropWhile_not p s
  rw [stripStart, Option.mem_def] at h
  rwa [h] at hhead

theorem of_mem_getLast?_stripEnd (h : c ∈ (stripEnd p s).getLast?) : p c = false := by
  rw [stripEnd, List.getLast?_reverse] at h
  exact of_mem_head?_stripStart h

theorem stripEnd_cons_of_neg (h : p c = false) (s : Text) : stripEnd p (c :: s) = c :: stripEnd p s := by
  rw [stripEnd, List.reverse_cons, List.dropWhile_append, stripEnd]
  split
  · next hnil => simp [List.isEmpty_iff.1 hnil, h]
  · simp

theorem stripEnd_eq_nil (h : ∀ c ∈ s, p c) : stripEnd p s = [] := by
  rw [stripEnd, List.dropWhile_eq_nil_iff.2 (by simpa using h), List.reverse_nil]

theorem stripEnd_cons_of_not_forall (h : ¬ ∀ d ∈ c :: s, p d) : stripEnd p (c :: s) = c :: stripEnd p s := by
  rw [stripEnd, List.reverse_cons, List.dropWhile_append, stripEnd]
  split
  · next hnil =>
    have hs : ∀ d ∈ s, p d := by simpa using hnil
    have hc : ¬ p c := fun hc => h (List.forall_mem_cons.2 ⟨hc, hs⟩)
    simp [List.isEmpty_iff.1 hnil, hc]
  · simp

theorem strip_eq_stripStart_stripEnd (p : Char → Bool) (s : Text) :
    strip p s = stripStart p (stripEnd p s) := by
  rw [strip]
  induction s with
  | nil => rfl
  | cons c s ih =>
    cases hc : p c with
    | false => rw [stripStart_cons_of_neg hc, stripEnd_cons_of_neg hc, stripStart_cons_of_neg hc]
    | true =>
      rw [stripStart_cons_of_pos hc, ih]
      by_cases hall : ∀ d ∈ c :: s, p d
      · rw [stripEnd_eq_nil hall, stripEnd_eq_nil (List.forall_mem_cons.1 hall).2]
      · rw [stripEnd_cons_of_not_forall hall, stripStart_cons_of_pos hc]

theorem head?_strip (p : Char → Bool) (s : Text) : (strip p s).head? = (stripStart p s).head? := by
  rw [strip]
  cases hs : stripStart p s with
  | nil => rfl
  | cons c t =>
    rw [stripEnd_cons_of_neg (of_mem_head?_stripStart (s := s) (by simp [hs]))]
    rfl

theorem stripStart_eq_self (h : ∀ c ∈ s.head?, p c = false) : stripStart p s = s := by
  cases s with
  | nil => rfl
  | cons c s => exact stripStart_cons_of_neg (h c rfl) s

theorem stripEnd_eq_self (h : ∀ c ∈ s.getLast?, p c = false) : stripEnd p s = s := by
  cases s using List.reverseRecOn with
  | nil => rfl
  | append_singleton s c => exact stripEnd_concat_of_neg (h c (by simp)) s

theorem stripStart_eq_iff {t : Text} : stripStart p s = t ↔
    ∃ front, s = front ++ t ∧ (∀ c ∈ front, p c) ∧ ∀ c ∈ t.head?, p c = false := by
  constructor
  · rintro rfl
    exact ⟨s.takeWhile p, List.takeWhile_append_dropWhile.symm, fun c => List.mem_takeWhile_imp,
      fun c => of_mem_head?_stripStart⟩
  · rintro ⟨front, rfl, hfront, ht⟩
    induction front with
    | nil => exact stripStart_eq_self ht
    | cons c front ih =>
      obtain ⟨hc, hfront⟩ := List.forall_mem_cons.1 hfront
      rw [List.cons_append, stripStart_cons_of_pos hc, ih hfront]

theorem strip_eq_self (hhead : ∀ c ∈ s.head?, p c = false) (hlast : ∀ c ∈ s.getLast?, p c = false) :
    strip p s = s := by
  rw [strip, stripStart_eq_self hhead, stripEnd_eq_self hlast]

theorem stripEnd_append_of_forall {back : Text} (h : ∀ c ∈ back, p c) (s : Text) :
    stripEnd p (s ++ back) = stripEnd p s := by
  rw [stripEnd, List.reverse_append, List.dropWhile_append_of_pos (by simpa using h), stripEnd]

theorem strip_append_of_forall {back : Text} (hs : ∀ c ∈ s, p c = false) (h : ∀ c ∈ back, p c) :
    strip p (s ++ back) = s := by
  cases s with
  | nil =>
    rw [List.nil_append, strip, stripStart, List.dropWhile_eq_nil_iff.2 h]
    rfl
  | cons c s =>
    rw [strip, List.cons_append, stripStart_cons_of_neg (hs c List.mem_cons_self), ← List.cons_append,
      stripEnd_append_of_forall h]
    exact stripEnd_eq_self fun d hd => hs d (List.mem_of_getLast? hd)

theorem stripStart_append_of_forall_neg {back : Text} (h : ∀ c ∈ back, p c = false) (s : Text) :
    stripStart p (s ++ back) = stripStart p s ++ back := by
  induction s with
  | nil => exact stripStart_eq_self fun c hc => h c (List.mem_of_mem_head? hc)
  | cons c s ih =>
    cases hc : p c with
    | true => rw [List.cons_append, stripStart_cons_of_pos hc, stripStart_cons_of_pos hc, ih]
    | false => rw [List.cons_append, stripStart_cons_of_neg hc, stripStart_cons_of_neg hc]; rfl

theorem count_stripStart (h : p c = false) (s : Text) : (stripStart p s).count c = s.count c := by
  induction s with
  | nil => rfl
  | cons d s ih =>
    cases hd : p d with
    | true => rw [stripStart_cons_of_pos hd, ih, List.count_cons_of_ne (by grind)]
    | false => rw [stripStart_cons_of_neg hd]

theorem count_strip (h : p c = false) (s : Text) : (strip p s).count c = s.count c := by
  rw [strip, stripEnd, List.count_reverse, ← stripStart, count_stripStart h, List.count_reverse,
    count_stripStart h]

end RecordText.Text
