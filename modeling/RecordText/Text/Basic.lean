namespace RecordText

abbrev Text := List Char

def isAsciiLetter (c : Char) : Bool := ('a' ≤ c && c ≤ 'z') || ('A' ≤ c && c ≤ 'Z')

def isAsciiDigit (c : Char) : Bool := '0' ≤ c && c ≤ '9'

namespace Text

def cut? (word : Text) : Text → Option (Text × Text)
  | [] => if word.isEmpty then some ([], []) else none
  | c :: s =>
    if word.isPrefixOf (c :: s) then some ([], (c :: s).drop word.length)
    else (cut? word s).map fun (before, after) => (c :: before, after)

def contains (s word : Text) : Bool := (cut? word s).isSome

/-- Occurrences that do not overlap, counted from the left; `skip` characters belong to the last one. -/
def occurrencesFrom (word : Text) : (skip : Nat) → Text → Nat
  | _, [] => 0
  | skip + 1, _ :: s => occurrencesFrom word skip s
  | 0, c :: s =>
    if word.isPrefixOf (c :: s) then occurrencesFrom word (word.length - 1) s + 1
    else occurrencesFrom word 0 s

def occurrences (s word : Text) : Nat :=
  if word.isEmpty then s.length + 1 else occurrencesFrom word 0 s

def ofNat (n : Nat) : Text := Nat.toDigits 10 n

def toNat (digits : Text) : Nat := Nat.ofDigitChars 10 digits 0

theorem cut?_eq_some {word s before after : Text} (h : cut? word s = some (before, after)) :
    s = before ++ word ++ after := by
  induction s generalizing before with
  | nil =>
    cases word with
    | nil => simp_all [cut?]
    | cons => simp [cut?] at h
  | cons c s ih =>
    simp only [cut?] at h
    split at h
    · next hp =>
      obtain ⟨rfl, rfl⟩ : [] = before ∧ (c :: s).drop word.length = after := by simpa using h
      simpa using (List.prefix_iff_eq_append.1 (List.isPrefixOf_iff_prefix.1 hp)).symm
    · obtain ⟨⟨b, a⟩, hb, he⟩ := Option.map_eq_some_iff.1 h
      obtain ⟨rfl, rfl⟩ : c :: b = before ∧ a = after := by simpa using he
      simp [ih hb]

theorem lookup_cons {α : Type} (n m : Text) (v : α) (l : List (Text × α)) :
    ((m, v) :: l).lookup n = if n = m then some v else l.lookup n := by
  by_cases h : n = m
  · simp [h]
  · simp [List.lookup_cons, h, beq_false_of_ne h]

theorem foldl_of_notMem {σ α β : Type} {get : σ → Text → β} {put : σ → Text → α → σ}
    (hput : ∀ s name value n, n ≠ name → get (put s name value) n = get s n) {n : Text}
    {entries : List (Text × α)} (h : n ∉ entries.map Prod.fst) (s : σ) :
    get (entries.foldl (fun s (name, value) => put s name value) s) n = get s n := by
  induction entries generalizing s with
  | nil => rfl
  | cons entry entries ih =>
    rw [List.map_cons, List.mem_cons, not_or] at h
    rw [List.foldl_cons, ih h.2, hput s _ _ n h.1]

end Text

end RecordText
