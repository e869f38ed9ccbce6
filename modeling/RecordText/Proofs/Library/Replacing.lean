import RecordText.Library.Builtin
import RecordText.Proofs.Regex.PlainWord
import RecordText.Proofs.Text.Placement

namespace RecordText.Builtin

open Regex

def invalidPattern (pattern : Text) : Text := "ERR: invalid pattern ".toList ++ pattern

theorem suffix_invalidPattern (pattern : Text) : pattern <:+ invalidPattern pattern :=
  List.suffix_append _ pattern

theorem replace_eq (s pattern replacement : Text) :
    replace [s, pattern, replacement] = replaceMatch pattern replacement s := rfl

section

variable {word : Text} (hne : word ≠ []) (hword : ∀ c ∈ word, isAsciiLetter c ∨ isAsciiDigit c)
  (replacement s : Text)

include hne hword

theorem replace_short_word (hlength : word.length ≤ maxWordLength) :
    replace [s, word, replacement] = exchangeFirst word replacement s := by
  have hcompile := compile?_word hne hword
  rw [if_pos hlength] at hcompile
  rw [replace_eq, replaceMatch, hcompile]
  exact replaceFirst_word hne replacement s

theorem replace_long_word (hlength : maxWordLength < word.length) :
    replace [s, word, replacement] = invalidPattern word := by
  have hcompile := compile?_word hne hword
  rw [if_neg (Nat.not_le.2 hlength)] at hcompile
  rw [replace_eq, replaceMatch, hcompile]
  rfl

end

/-- A word that is not there changes nothing, and of one that is there the first occurrence is replaced, if
the word is not too long. -/
theorem replace_word (s replacement : Text) {word : Text} (hne : word ≠ [])
    (hword : ∀ c ∈ word, isAsciiLetter c ∨ isAsciiDigit c) :
    (word.length ≤ maxWordLength →
        (¬ word <:+: s → replace [s, word, replacement] = s) ∧
          (word <:+: s → ∃ before after, s = before ++ word ++ after ∧ Text.FirstBehind word before) ∧
          ∀ before after, s = before ++ word ++ after → Text.FirstBehind word before →
            replace [s, word, replacement] = before ++ replacement ++ after) ∧
      (maxWordLength < word.length → replace [s, word, replacement] = invalidPattern word) := by
  refine ⟨fun hlength => ⟨fun hnot => ?_, fun hmem => ?_, fun before after hs hfirst => ?_⟩,
    replace_long_word hne hword replacement s⟩
  · rw [replace_short_word hne hword replacement s hlength, exchangeFirst, Text.cut?_eq_none_iff.2 hnot]
  · obtain ⟨⟨before, after⟩, hcut⟩ :=
      Option.ne_none_iff_exists'.1 fun hnone => Text.cut?_eq_none_iff.1 hnone hmem
    exact ⟨before, after, Text.cut?_eq_some_iff.1 hcut⟩
  · have hcut := Text.cut?_eq_some_iff.2 ⟨hs, hfirst⟩
    rw [replace_short_word hne hword replacement s hlength, exchangeFirst, hcut]

theorem replace_word_overlapping :
    let s := "aaab1 aab1".toList
    let word := "aab1".toList
    (word ≠ [] ∧ (∀ c ∈ word, isAsciiLetter c ∨ isAsciiDigit c) ∧ word.length ≤ maxWordLength ∧
        Text.FirstBehind word ['a'] ∧ ¬ "ba".toList <:+: s) ∧
      replace [s, word, "$0\\".toList] = "a$0\\ aab1".toList ∧
      replace [s, "ba".toList, "$0\\".toList] = s := by
  intro s word
  have hword : ∀ c ∈ word, isAsciiLetter c ∨ isAsciiDigit c := by
    simp [word, isAsciiLetter, isAsciiDigit]
  have hlength : word.length ≤ maxWordLength := by decide
  have hfirst : Text.FirstBehind word ['a'] := by decide
  have hnot : ¬ "ba".toList <:+: s := Text.cut?_eq_none_iff.1 (by decide)
  obtain ⟨-, -, hreplace⟩ := (replace_word s "$0\\".toList (by decide) hword).1 hlength
  have hother : ∀ c ∈ "ba".toList, isAsciiLetter c ∨ isAsciiDigit c := by simp [isAsciiLetter]
  obtain ⟨hsame, -, -⟩ := (replace_word s "$0\\".toList (by decide) hother).1 (by decide)
  exact ⟨⟨by decide, hword, hlength, hfirst, hnot⟩, hreplace ['a'] " aab1".toList rfl hfirst, hsame hnot⟩

-- The length stays a variable, so that the word itself is not computed.
theorem replace_replicate_ne {n : Nat} (hn : maxWordLength < n) :
    let word := List.replicate n 'a'
    word ≠ [] ∧ (∀ c ∈ word, isAsciiLetter c ∨ isAsciiDigit c) ∧ ¬ word <:+: ['b'] ∧
      replace [['b'], word, ['c']] ≠ ['b'] := by
  intro word
  have hlength : maxWordLength < word.length := by rwa [List.length_replicate]
  have hlong : ¬ word.length ≤ 1 := Nat.not_le.2 (Nat.lt_of_le_of_lt (by decide) hlength)
  have hne : word ≠ [] := List.ne_nil_of_length_pos (Nat.zero_lt_of_lt hlength)
  have hword : ∀ c ∈ word, isAsciiLetter c ∨ isAsciiDigit c := by
    intro c hc
    rw [List.eq_of_mem_replicate hc]
    decide
  refine ⟨hne, hword, fun hinfix => hlong hinfix.length_le, fun hsame => ?_⟩
  rw [replace_long_word hne hword ['c'] ['b'] hlength] at hsame
  exact hlong (hsame ▸ suffix_invalidPattern word).length_le

theorem not_forall_replace_word : ¬ ∀ (s replacement word : Text), word ≠ [] →
    (∀ c ∈ word, isAsciiLetter c ∨ isAsciiDigit c) →
      (¬ word <:+: s → replace [s, word, replacement] = s) ∧
        ∀ before after, s = before ++ word ++ after → Text.FirstBehind word before →
          replace [s, word, replacement] = before ++ replacement ++ after := by
  intro h
  obtain ⟨hne, hword, hnot, hdiffers⟩ :=
    replace_replicate_ne (by decide : maxWordLength < 400000)
  exact hdiffers ((h ['b'] ['c'] _ hne hword).1 hnot)

end RecordText.Builtin
