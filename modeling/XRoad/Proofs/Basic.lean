import Mathlib.Data.List.Forall2
import XRoad.Xml.Query

/-!
# Results and lists

How code that may fail goes on from a result, and which member of a list is its only one.
-/

namespace XRoad

section
variable {ε α β : Type}

theorem ok_bind (a : α) (f : α → Except ε β) : (Except.ok a >>= f) = f a :=
  rfl

theorem bind_ok {x : Except ε α} {f : α → Except ε β} {b : β} (h : x >>= f = .ok b) :
    ∃ a, x = .ok a ∧ f a = .ok b := by
  cases x with
  | error e => cases h
  | ok a => exact ⟨a, rfl, h⟩

theorem bind_congr_ok {x : Except ε α} {f g : α → Except ε β} (same : ∀ a, x = .ok a → f a = g a) :
    x >>= f = x >>= g := by
  cases x with
  | error e => rfl
  | ok a => exact same a rfl

theorem ok_of_toOption {x : Except ε α} {a : α} (read : x.toOption = some a) : x = .ok a := by
  cases x with
  | error e => cases read
  | ok b => rw [Option.some.inj read]

theorem mapM_ok {f : α → Except ε β} {g : α → β} {as : List α}
    (all : ∀ a ∈ as, f a = .ok (g a)) : as.mapM f = .ok (as.map g) := by
  induction as with
  | nil => rfl
  | cons a as ih =>
    rw [List.mapM_cons, all a List.mem_cons_self, ih fun b m => all b (List.mem_cons_of_mem _ m)]
    rfl

theorem forall₂_of_mapM {f : α → Except ε β} {as : List α} {bs : List β}
    (made : as.mapM f = .ok bs) : List.Forall₂ (fun a b => f a = .ok b) as bs := by
  induction as generalizing bs with
  | nil => exact Except.ok.inj made ▸ .nil
  | cons a as ih =>
    rw [List.mapM_cons] at made
    obtain ⟨b, first, made⟩ := bind_ok made
    obtain ⟨bs', rest, made⟩ := bind_ok made
    obtain rfl := Except.ok.inj made
    exact .cons first (ih rest)

end

theorem exists_of_forall₂_right {α β : Type} {R : α → β → Prop} {as : List α} {bs : List β}
    (related : List.Forall₂ R as bs) {b : β} (m : b ∈ bs) : ∃ a ∈ as, R a b := by
  induction related with
  | nil => cases m
  | cons first _ ih =>
    rcases List.mem_cons.1 m with rfl | m
    · exact ⟨_, List.mem_cons_self, first⟩
    · obtain ⟨a, ma, related⟩ := ih m
      exact ⟨a, List.mem_cons_of_mem _ ma, related⟩

namespace Xml

theorem only?_map {α β : Type} (f : α → β) (as : List α) : only? (as.map f) = (only? as).map f := by
  match as with
  | [] => rfl
  | [_] => rfl
  | _ :: _ :: _ => rfl

theorem only?_cons_eq_some_iff {α : Type} {a b : α} {as : List α} :
    only? (a :: as) = some b ↔ a = b ∧ as = [] := by
  rw [only?_eq_some_iff, List.cons.injEq]

end Xml

end XRoad
