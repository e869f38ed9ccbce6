import Mathlib.Data.List.Nodup
import Mathlib.Data.List.Range
import RecordText.CharSet.Basic

namespace RecordText.CharSet

theorem covers_iff {s : CharSet} {n : Nat} : s.covers n ↔ ∃ r ∈ s.ranges, r.1 ≤ n ∧ n ≤ r.2 := by
  simp [covers]

section Joining

variable {lo hi : Nat} {rs : List (Nat × Nat)}

theorem exists_mem_joinFrom_iff (hsorted : ((lo, hi) :: rs).Pairwise (·.1 ≤ ·.1)) (n : Nat) :
    (∃ r ∈ joinFrom lo hi rs, r.1 ≤ n ∧ n ≤ r.2) ↔ ∃ r ∈ (lo, hi) :: rs, r.1 ≤ n ∧ n ≤ r.2 := by
  induction rs generalizing lo hi with
  | nil => rfl
  | cons r rs ih =>
    obtain ⟨a, b⟩ := r
    obtain ⟨hlo, hsorted⟩ := List.pairwise_cons.1 hsorted
    have hle : lo ≤ a := hlo _ List.mem_cons_self
    rw [joinFrom]
    split
    · next hjoin =>
      have hsorted' : ((lo, max hi b) :: rs).Pairwise (·.1 ≤ ·.1) :=
        List.pairwise_cons.2 ⟨fun r hr => hlo r (List.mem_cons_of_mem _ hr), hsorted.of_cons⟩
      have hcover : lo ≤ n ∧ n ≤ max hi b ↔ (lo ≤ n ∧ n ≤ hi) ∨ (a ≤ n ∧ n ≤ b) := by omega
      rw [ih hsorted']
      simp only [List.exists_mem_cons_iff, hcover, or_assoc]
    · simp only [List.exists_mem_cons_iff, ih hsorted]

theorem joinFrom_separated (hsorted : ((lo, hi) :: rs).Pairwise (·.1 ≤ ·.1))
    (hordered : ∀ r ∈ (lo, hi) :: rs, r.1 ≤ r.2) :
    (∀ r ∈ joinFrom lo hi rs, lo ≤ r.1 ∧ r.1 ≤ r.2) ∧ (joinFrom lo hi rs).Pairwise (·.2 < ·.1) := by
  induction rs generalizing lo hi with
  | nil => simpa [joinFrom] using hordered
  | cons r rs ih =>
    obtain ⟨a, b⟩ := r
    obtain ⟨hlo, hsorted⟩ := List.pairwise_cons.1 hsorted
    obtain ⟨hopen, hordered⟩ := List.forall_mem_cons.1 hordered
    have hle : lo ≤ a := hlo _ List.mem_cons_self
    rw [joinFrom]
    split
    · refine ih (List.pairwise_cons.2 ⟨fun r hr => hlo r (List.mem_cons_of_mem _ hr), hsorted.of_cons⟩) ?_
      exact List.forall_mem_cons.2 ⟨Nat.le_trans hopen (Nat.le_max_left hi b),
        (List.forall_mem_cons.1 hordered).2⟩
    · next hapart =>
      obtain ⟨hmem, hpairwise⟩ := ih hsorted hordered
      refine ⟨List.forall_mem_cons.2 ⟨⟨Nat.le_refl lo, hopen⟩, fun r hr => ?_⟩,
        List.pairwise_cons.2 ⟨fun r hr => ?_, hpairwise⟩⟩
      · exact ⟨Nat.le_trans hle (hmem r hr).1, (hmem r hr).2⟩
      · have hstart := (hmem r hr).1
        change hi < r.1
        omega

end Joining

variable {rs : List (Nat × Nat)}

theorem pairwise_mergeSort_fst (rs : List (Nat × Nat)) :
    (rs.mergeSort fun r s => r.1 ≤ s.1).Pairwise (·.1 ≤ ·.1) := by
  have htrans (q r s : Nat × Nat) (hqr : decide (q.1 ≤ r.1)) (hrs : decide (r.1 ≤ s.1)) :
      decide (q.1 ≤ s.1) := by
    simp_all only [decide_eq_true_eq]
    exact Nat.le_trans hqr hrs
  have htotal (r s : Nat × Nat) : decide (r.1 ≤ s.1) || decide (s.1 ≤ r.1) := by
    simpa using Nat.le_total r.1 s.1
  simpa using List.pairwise_mergeSort htrans htotal rs

theorem covers_ofRanges_iff (rs : List (Nat × Nat)) (n : Nat) :
    (ofRanges rs).covers n ↔ ∃ r ∈ rs, r.1 ≤ n ∧ n ≤ r.2 := by
  have hsorted := pairwise_mergeSort_fst rs
  have hmem (r : Nat × Nat) : r ∈ rs.mergeSort (fun r s => r.1 ≤ s.1) ↔ r ∈ rs := List.mem_mergeSort
  rw [covers_iff, ofRanges]
  simp only [← hmem]
  cases h : rs.mergeSort fun r s => r.1 ≤ s.1 with
  | nil => rfl
  | cons r t => exact exists_mem_joinFrom_iff (h ▸ hsorted) n

theorem ofRanges_separated (hordered : ∀ r ∈ rs, r.1 ≤ r.2) :
    (∀ r ∈ (ofRanges rs).ranges, r.1 ≤ r.2) ∧ (ofRanges rs).ranges.Pairwise (·.2 < ·.1) := by
  have hsorted := pairwise_mergeSort_fst rs
  have hmem (r : Nat × Nat) : r ∈ rs.mergeSort (fun r s => r.1 ≤ s.1) → r ∈ rs := List.mem_mergeSort.1
  rw [ofRanges]
  cases h : rs.mergeSort fun r s => r.1 ≤ s.1 with
  | nil => exact ⟨nofun, List.Pairwise.nil⟩
  | cons r t =>
    rw [h] at hsorted hmem
    obtain ⟨hbounds, hpairwise⟩ := joinFrom_separated hsorted fun q hq => hordered q (hmem q hq)
    exact ⟨fun q hq => (hbounds q hq).2, hpairwise⟩

theorem length_ranges_le {s : CharSet} {bound : Nat} (hordered : ∀ r ∈ s.ranges, r.1 ≤ r.2)
    (hpairwise : s.ranges.Pairwise (·.2 < ·.1)) (hbound : ∀ r ∈ s.ranges, r.2 < bound) :
    s.ranges.length ≤ bound := by
  have hstarts : (s.ranges.map (·.1)).Nodup := by
    refine List.pairwise_map.2 (hpairwise.imp_of_mem fun {q r} hq _ hlt => ?_)
    have hle := hordered q hq
    change q.1 ≠ r.1
    omega
  have hsubset : s.ranges.map (·.1) ⊆ List.range bound := by
    intro n hn
    obtain ⟨r, hr, rfl⟩ := List.mem_map.1 hn
    exact List.mem_range.2 (Nat.lt_of_le_of_lt (hordered r hr) (hbound r hr))
  simpa using hstarts.length_le_of_subset hsubset

theorem contains_single_iff {c d : Char} : (single d).contains c ↔ d = c := by
  rw [contains, covers_iff, single, range]
  simp only [List.mem_singleton, exists_eq_left]
  exact ⟨fun h => Char.toNat_inj.1 (Nat.le_antisymm h.1 h.2), fun h => h ▸ ⟨Nat.le_refl _, Nat.le_refl _⟩⟩

section Singles

variable (cs : List Char)

theorem mem_ranges_singles {cs : List Char} {r : Nat × Nat} :
    r ∈ (cs.map single).flatMap ranges ↔ ∃ c ∈ cs, r = (c.toNat, c.toNat) := by
  simp [List.mem_flatMap, single, range]

theorem contains_unions_single (c : Char) : (unions (cs.map single)).contains c ↔ c ∈ cs := by
  rw [contains, unions, covers_ofRanges_iff]
  constructor
  · rintro ⟨r, hr, hle, hge⟩
    obtain ⟨d, hd, rfl⟩ := mem_ranges_singles.1 hr
    rwa [Char.toNat_inj.1 (Nat.le_antisymm hge hle)]
  · intro hc
    exact ⟨_, mem_ranges_singles.2 ⟨c, hc, rfl⟩, Nat.le_refl _, Nat.le_refl _⟩

theorem unions_single_bounds {bound : Nat} (h : ∀ c ∈ cs, c.toNat < bound) :
    (∀ r ∈ (unions (cs.map single)).ranges, r.2 < bound) ∧
      (unions (cs.map single)).ranges.length ≤ bound := by
  have hordered : ∀ r ∈ (cs.map single).flatMap ranges, r.1 ≤ r.2 := by
    intro r hr
    obtain ⟨c, -, rfl⟩ := mem_ranges_singles.1 hr
    exact Nat.le_refl _
  obtain ⟨hbounds, hpairwise⟩ := ofRanges_separated hordered
  have hends : ∀ r ∈ (unions (cs.map single)).ranges, r.2 < bound := by
    intro r hr
    have hcovers := covers_iff.2 ⟨r, hr, hbounds r hr, Nat.le_refl _⟩
    obtain ⟨q, hq, -, hle⟩ := (covers_ofRanges_iff _ _).1 hcovers
    obtain ⟨c, hc, rfl⟩ := mem_ranges_singles.1 hq
    exact Nat.lt_of_le_of_lt hle (h c hc)
  exact ⟨hends, length_ranges_le hbounds hpairwise hends⟩

end Singles

end RecordText.CharSet
