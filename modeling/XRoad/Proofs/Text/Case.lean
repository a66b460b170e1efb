import XRoad.Text.Case

/-!
# Lower case of lower case

No shift of the lower-case mapping leads to a code point that another one moves, so a second mapping
changes nothing. Main statement: `lower_lower`.
-/

namespace XRoad.Text

/-! ### Shifts -/

namespace Shift

def Moves (s : Shift) (n : Nat) : Prop :=
  s.first ≤ n ∧ n ≤ s.last ∧ (n - s.first) % s.step = 0

def image (s : Shift) (n : Nat) : Nat :=
  ((n : Int) + s.offset).toNat

/-- Moves nothing from `low` to `high`, or only every second code point and not `low`; `even` says
that only every second code point of the range is asked for. -/
def isClear (low high : Nat) (even : Bool) (s : Shift) : Bool :=
  Nat.blt high s.first || Nat.blt s.last low ||
    (even && Nat.beq s.step 2 && Nat.blt s.first low && Nat.beq ((low - s.first) % 2) 1)

/-- None of some shifts moves an image of this one. -/
def isSettled (others : List Shift) (s : Shift) : Bool :=
  Nat.blt 0 (s.image s.first) &&
    others.all (isClear (s.image s.first) (s.image s.last) (Nat.beq s.first s.last || Nat.beq s.step 2))

theorem not_moves_image {others : List Shift} {s t : Shift} (settled : s.isSettled others)
    (m : t ∈ others) {n : Nat} (moved : s.Moves n) : ¬ t.Moves (s.image n) := by
  obtain ⟨low, high, same⟩ := moved
  simp only [isSettled, isClear, image, Bool.and_eq_true, List.all_eq_true, Bool.or_eq_true,
    Nat.blt_eq, Nat.beq_eq] at settled
  obtain ⟨nonzero, clear⟩ := settled
  rintro ⟨low', high', same'⟩
  unfold image at low' high' same'
  rcases clear t m with (below | above) | ⟨⟨⟨single | even, even'⟩, inside⟩, odd⟩
  · omega
  · omega
  · rw [even'] at same'
    omega
  · rw [even] at same
    rw [even'] at same'
    omega

end Shift

/-! ### Characters -/

/-- The shifts of the lower-case mapping, and one for each character that becomes several. -/
def lowerShifts : List Shift :=
  CaseTable.lower ++ CaseTable.lowerLong.map fun p => ⟨p.1, p.1, 1, 0⟩

theorem isSettled_lower : CaseTable.lower.all (Shift.isSettled lowerShifts) := by
  decide +kernel

/-- A character that the lower-case mapping leaves alone, wherever it stands. -/
def IsLowerChar (c : Char) : Prop :=
  c ≠ 'Σ' ∧ lowerChar c = [c]

theorem shifted?_of_not_moves {table : List Shift} {n : Nat} (still : ∀ t ∈ table, ¬ t.Moves n) :
    shifted? table n = none := by
  rw [shifted?, Option.map_eq_none_iff, List.find?_eq_none]
  intro t m hit
  simp only [Bool.and_eq_true, decide_eq_true_eq, beq_iff_eq] at hit
  exact still t m ⟨hit.1.1, hit.1.2, hit.2⟩

theorem moves_of_shifted? {table : List Shift} {n : Nat} {c : Char}
    (found : shifted? table n = some c) :
    ∃ s ∈ table, s.Moves n ∧ c = Char.ofNat (s.image n) := by
  obtain ⟨s, first, rfl⟩ := Option.map_eq_some_iff.1 found
  have hit := List.find?_some first
  simp only [Bool.and_eq_true, decide_eq_true_eq, beq_iff_eq] at hit
  exact ⟨s, List.mem_of_find?_eq_some first, ⟨hit.1.1, hit.1.2, hit.2⟩, rfl⟩

theorem toLower_eq_self {c : Char} (notUpper : ¬ (65 ≤ c.toNat ∧ c.toNat ≤ 90)) :
    c.toLower = c := by
  unfold Char.toLower
  split
  · next upper => exact absurd ⟨upper.1, upper.2⟩ notUpper
  · rfl

theorem isLowerChar_of_not_moves {c : Char} (still : ∀ t ∈ lowerShifts, ¬ t.Moves c.toNat) :
    IsLowerChar c := by
  have single : ∀ t ∈ CaseTable.lower, ¬ t.Moves c.toNat := by
    intro t m
    exact still t (List.mem_append_left _ m)
  constructor
  · rintro rfl
    have moved : shifted? CaseTable.lower 'Σ'.toNat = some 'σ' := by decide
    rw [shifted?_of_not_moves single] at moved
    cases moved
  · unfold lowerChar
    split
    · have notUpper : ¬ (65 ≤ c.toNat ∧ c.toNat ≤ 90) := by
        rintro ⟨low, high⟩
        exact single ⟨0x41, 0x5A, 1, 32⟩ List.mem_cons_self ⟨low, high, Nat.mod_one _⟩
      rw [toLower_eq_self notUpper]
    · have short : CaseTable.lowerLong.lookup c.toNat = none := by
        rw [List.lookup_eq_none_iff]
        intro p m
        rw [bne_iff_ne]
        intro same
        apply still ⟨p.1, p.1, 1, 0⟩ (List.mem_append_right _ (List.mem_map_of_mem m))
        exact ⟨Nat.le_of_eq same.symm, Nat.le_of_eq same, Nat.mod_one _⟩
      unfold mapped
      rw [short, shifted?_of_not_moves single]
      rfl

instance (c : Char) : Decidable (IsLowerChar c) :=
  inferInstanceAs (Decidable (_ ∧ _))

theorem isLowerChar_ascii : ∀ n < 0x80, IsLowerChar (Char.ofNat n).toLower := by
  decide

theorem isLowerChar_long : ∀ p ∈ CaseTable.lowerLong, ∀ n ∈ p.2, IsLowerChar (Char.ofNat n) := by
  decide

theorem isLowerChar_image {s : Shift} (m : s ∈ CaseTable.lower) {n : Nat} (moved : s.Moves n) :
    IsLowerChar (Char.ofNat (s.image n)) := by
  by_cases valid : (s.image n).isValidChar
  · apply isLowerChar_of_not_moves
    intro t known
    have settled := List.all_eq_true.1 isSettled_lower s m
    have code : (Char.ofNat (s.image n)).toNat = s.image n := by
      rw [Char.ofNat, dif_pos valid]
      rfl
    rw [code]
    exact Shift.not_moves_image settled known moved
  · have zero : Char.ofNat (s.image n) = Char.ofNat 0 := by
      rw [Char.ofNat, dif_neg valid]
      rfl
    rw [zero]
    decide

theorem isLowerChar_of_mem_lowerChar {c d : Char} (other : c ≠ 'Σ') (m : d ∈ lowerChar c) :
    IsLowerChar d := by
  by_cases ascii : c.toNat < 0x80
  · rw [lowerChar, if_pos ascii, List.mem_singleton] at m
    rw [m, ← Char.ofNat_toNat c]
    exact isLowerChar_ascii c.toNat ascii
  · have wide : lowerChar c = mapped CaseTable.lowerLong CaseTable.lower c := if_neg ascii
    rw [wide, mapped] at m
    split at m
    · next ns found =>
      obtain ⟨before, after, split, -⟩ := List.lookup_eq_some_iff.1 found
      have known : (c.toNat, ns) ∈ CaseTable.lowerLong := by
        rw [split]
        exact List.mem_append_right before List.mem_cons_self
      obtain ⟨n, part, rfl⟩ := List.mem_map.1 m
      exact isLowerChar_long _ known n part
    · next absent =>
      rw [List.mem_singleton] at m
      cases found : shifted? CaseTable.lower c.toNat with
      | none =>
        rw [found, Option.getD_none] at m
        subst m
        refine ⟨other, ?_⟩
        rw [wide, mapped, absent, found]
        rfl
      | some e =>
        rw [found, Option.getD_some] at m
        obtain ⟨s, known, moved, rfl⟩ := moves_of_shifted? found
        rw [m]
        exact isLowerChar_image known moved

theorem isLowerChar_of_mem_lowerChars {before cs : List Char} {d : Char}
    (m : d ∈ lowerChars before cs) : IsLowerChar d := by
  induction cs generalizing before with
  | nil => cases m
  | cons c cs ih =>
    rw [lowerChars, List.mem_append] at m
    rcases m with here | later
    · by_cases sigma : c = 'Σ'
      · rw [if_pos (beq_iff_eq.2 sigma)] at here
        split at here
        · rw [List.mem_singleton.1 here]
          exact ⟨by decide, by decide⟩
        · rw [List.mem_singleton.1 here]
          exact ⟨by decide, by decide⟩
      · rw [if_neg (by rwa [beq_iff_eq])] at here
        exact isLowerChar_of_mem_lowerChar sigma here
    · exact ih later

theorem lowerChars_eq_self {cs : List Char} (still : ∀ c ∈ cs, IsLowerChar c) (before : List Char) :
    lowerChars before cs = cs := by
  induction cs generalizing before with
  | nil => rfl
  | cons c cs ih =>
    obtain ⟨other, alone⟩ := still c List.mem_cons_self
    rw [lowerChars, if_neg (by rwa [beq_iff_eq]), alone,
      ih (fun d m => still d (List.mem_cons_of_mem c m))]
    rfl

theorem lower_lower (s : String) : lower (lower s) = lower s := by
  rw [lower, lower, String.toList_ofList]
  congr 1
  apply lowerChars_eq_self
  intro c m
  exact isLowerChar_of_mem_lowerChars m

end XRoad.Text
