import Mathlib.Data.List.DropRight
import Mathlib.Data.List.TakeWhile
import XRoad.Text.Blank

/-!
# Trimmed texts

What trimming leaves as it is, is not blank unless it is empty, and a second trimming leaves all as it
is.
-/

namespace XRoad.Text

theorem trimChars_blank {cs : List Char} (blank : cs.all isBlankChar) : trimChars cs = [] := by
  have none_left : cs.dropWhile isBlankChar = [] := by
    rw [List.dropWhile_eq_nil_iff]
    exact List.all_eq_true.1 blank
  rw [trimChars, none_left]
  rfl

theorem trim_blank {s : String} (blank : isBlank s) : trim s = "" := by
  rw [trim, trimChars_blank blank]

theorem not_blank_of_trimmed {s : String} (trimmed : trim s = s) (nonempty : s ≠ "") :
    isBlank s = false := by
  by_contra blank
  rw [Bool.not_eq_false] at blank
  exact nonempty (trimmed.symm.trans (trim_blank blank))

theorem trimChars_eq (cs : List Char) :
    trimChars cs = (cs.dropWhile isBlankChar).rdropWhile isBlankChar :=
  rfl

theorem trim_trim (s : String) : trim (trim s) = trim s := by
  -- Dropping blanks from the right does not bring a blank to the left end.
  have head (cs : List Char) : (trimChars cs).dropWhile isBlankChar = trimChars cs := by
    rw [trimChars_eq, List.dropWhile_eq_self_iff]
    intro nonempty blank
    have kept := List.rdropWhile_prefix isBlankChar (cs.dropWhile isBlankChar)
    apply List.dropWhile_get_zero_not isBlankChar cs (nonempty.trans_le kept.length_le)
    rw [List.get_eq_getElem, ← kept.getElem nonempty]
    exact blank
  rw [trim, trim, String.toList_ofList]
  congr 1
  rw [trimChars_eq (trimChars _), head, trimChars_eq, List.rdropWhile_idempotent]

end XRoad.Text
