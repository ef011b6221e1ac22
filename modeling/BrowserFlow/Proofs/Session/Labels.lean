import BrowserFlow.Session.Domain
import Mathlib.Data.List.Infix

/-!
A cookie's domain and a host belong together just if the labels of one are the last labels of the other. A label is
never matched in part, so that hosts which differ in one label only keep their cookies apart.
-/

namespace BrowserFlow

namespace Text

theorem endsWith_iff {cs suffix : List Char} : endsWith cs suffix = true ↔ suffix <:+ cs := List.isSuffixOf_iff_suffix

theorem intercalate_append (c : Char) {front back : List (List Char)} (filled : front ≠ []) (rest : back ≠ []) :
    [c].intercalate (front ++ back) = [c].intercalate front ++ c :: [c].intercalate back := by
  induction front with
  | nil => exact absurd rfl filled
  | cons field front ih =>
    cases front with
    | nil =>
      obtain ⟨next, others, rfl⟩ := List.exists_cons_of_ne_nil rest
      simp
    | cons next front =>
      have joined := ih (List.cons_ne_nil next front)
      simp only [List.cons_append, List.intercalate_cons_cons] at joined ⊢
      rw [joined]
      simp

/-- The fields of one text are the last fields of another just if the other is the same, or ends in it right after a
    separator. -/
theorem splitOn_suffix_iff (c : Char) {cs parent : List Char} :
    parent.splitOn c <:+ cs.splitOn c ↔ cs = parent ∨ c :: parent <:+ cs := by
  constructor
  · rintro ⟨front, whole⟩
    have joined := congrArg [c].intercalate whole
    rw [List.intercalate_splitOn] at joined
    by_cases none : front = []
    · rw [none, List.nil_append, List.intercalate_splitOn] at joined
      exact .inl joined.symm
    · rw [intercalate_append c none (List.splitOn_ne_nil c parent), List.intercalate_splitOn] at joined
      exact .inr ⟨_, joined⟩
  · rintro (rfl | ⟨front, rfl⟩)
    · exact List.suffix_refl _
    · have split := @List.splitOnP_append_cons Char (· == c) front parent c (beq_self_eq_true c)
      exact ⟨front.splitOn c, split.symm⟩

end Text

namespace Domain

/-- What stands between the dots of a domain, without the dots that it begins with and in small letters. -/
def labels (domain : String) : List (List Char) := (normalize domain).splitOn '.'

theorem isBelow_iff (cs parent : List Char) : isBelow cs parent = true ↔ parent.splitOn '.' <:+ cs.splitOn '.' := by
  rw [Text.splitOn_suffix_iff, isBelow, Bool.or_eq_true, beq_iff_eq, Text.endsWith_iff]

theorem matchesHost_iff (cookieDomain host : String) : matchesHost cookieDomain host = true ↔
    labels host <:+ labels cookieDomain ∨ labels cookieDomain <:+ labels host := by
  rw [matchesHost, Bool.or_eq_true, isBelow_iff, isBelow_iff]
  rfl

theorem matchesHost_comm (cookieDomain host : String) : matchesHost cookieDomain host = matchesHost host cookieDomain := by
  rw [Bool.eq_iff_iff, matchesHost_iff, matchesHost_iff]
  exact or_comm

/-- A text in front that ends in no dot is a part of a label. -/
theorem not_below_partly {front parent : List Char} (filled : front ≠ []) (last : front.getLast? ≠ some '.') :
    isBelow (front ++ parent) parent = false ∧ isBelow parent (front ++ parent) = false := by
  have longer : 0 < front.length := List.length_pos_iff.mpr filled
  have other : front ++ parent ≠ parent := fun same => filled (List.append_left_eq_self.mp same)
  have ends : ¬ '.' :: parent <:+ front ++ parent := by
    rintro ⟨before, whole⟩
    have split : before ++ ['.'] = front := by
      rw [← List.append_left_inj parent]
      simpa using whole
    exact last (by rw [← split]; simp)
  have short : ¬ '.' :: (front ++ parent) <:+ parent := by
    intro suffix
    have bound := suffix.length_le
    simp only [List.length_cons, List.length_append] at bound
    omega
  constructor
  · rw [Bool.eq_false_iff, ne_eq, isBelow, Bool.or_eq_true, beq_iff_eq, Text.endsWith_iff]
    exact not_or.mpr ⟨other, ends⟩
  · rw [Bool.eq_false_iff, ne_eq, isBelow, Bool.or_eq_true, beq_iff_eq, Text.endsWith_iff]
    exact not_or.mpr ⟨other.symm, short⟩

theorem not_suffix_of_siblings {x y : List Char} (apart : x ≠ y) (parent : List (List Char)) :
    ¬ x :: parent <:+ y :: parent := by
  intro suffix
  have same := suffix.eq_of_length (by simp)
  exact apart (List.cons.inj same).1

/-- Two domains match just if the labels of one are the last labels of the other. So each matches itself, it does not
    matter which of them is the cookie's, no label is matched in part, and two domains that differ in their first label
    do not match. -/
theorem matchesHost_labels (cookieDomain host : String) :
    (matchesHost cookieDomain host = true ↔
      labels host <:+ labels cookieDomain ∨ labels cookieDomain <:+ labels host) ∧
    matchesHost cookieDomain cookieDomain = true ∧
    matchesHost cookieDomain host = matchesHost host cookieDomain ∧
    (∀ front, front ≠ [] → front.getLast? ≠ some '.' → normalize cookieDomain = front ++ normalize host →
      matchesHost cookieDomain host = false) ∧
    ∀ x y parent, x ≠ y → labels cookieDomain = x :: parent → labels host = y :: parent →
      matchesHost cookieDomain host = false := by
  refine ⟨matchesHost_iff cookieDomain host, ?_, matchesHost_comm cookieDomain host, ?_, ?_⟩
  · exact (matchesHost_iff cookieDomain cookieDomain).mpr (.inl (List.suffix_refl _))
  · intro front filled last whole
    obtain ⟨above, below⟩ := @not_below_partly front (normalize host) filled last
    rw [matchesHost, whole, above, below]
    rfl
  · intro x y parent apart first second
    rw [Bool.eq_false_iff, ne_eq, matchesHost_iff, first, second]
    exact not_or.mpr ⟨not_suffix_of_siblings apart.symm parent, not_suffix_of_siblings apart parent⟩

/-- A longer name that only ends in the same letters, and two hosts of one domain in capitals and with a dot in front. -/
theorem matchesHost_labels_apart : matchesHost "evilexample.com" "example.com" = false ∧
    matchesHost ".Shop.Example.com" "news.example.com" = false ∧ matchesHost ".Shop.Example.com" "example.com" = true := by
  obtain ⟨_, _, _, partly, _⟩ := matchesHost_labels "evilexample.com" "example.com"
  obtain ⟨_, _, _, _, siblings⟩ := matchesHost_labels ".Shop.Example.com" "news.example.com"
  obtain ⟨below, _⟩ := matchesHost_labels ".Shop.Example.com" "example.com"
  refine ⟨partly "evil".toList (by decide) (by decide) (by decide +kernel), ?_, below.mpr (.inl ?_)⟩
  · exact siblings "shop".toList "news".toList ["example".toList, "com".toList] (by decide) (by decide +kernel)
      (by decide +kernel)
  · exact ⟨["shop".toList], by decide +kernel⟩

end Domain

end BrowserFlow
