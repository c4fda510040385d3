import BatchFilter.Proofs.Casing
import BatchFilter.Proofs.Wire

/-! # Searching in Windows

    To look for an argument in content is to compare it with every stretch
    of the content that is as long, and at its two ends with the first and the
    last one.  Taking a stretch that is not there would be a failure, and so
    would be stretches of no length.  Neither happens: whatever the two lengths
    are, the search ends with what the comparison says.

    * `Search.slice?`, `Search.windows?`: stretches, where they are.
    * `Comparison.search?_eq`: a search by stretches never fails.
    * `Config.texts_are_found`: what the conditions on texts find, and which
      of them follow from each other. -/

namespace BatchFilter

namespace Search

variable {α : Type}

/-! ## Section 1: Stretches of a list -/

/-- The stretch from one position up to another, if both are in the list and
    in this order. -/
def slice? (xs : List α) (first last : Nat) : Option (List α) :=
  if first ≤ last ∧ last ≤ xs.length then some ((xs.drop first).take (last - first)) else none

/-- All stretches of the same length, from the first to the last.  They must
    have a length. -/
def windows? (size : Nat) (xs : List α) : Option (List (List α)) :=
  if size = 0 then none
  else (List.range (xs.length + 1 - size)).mapM fun i => slice? xs i (i + size)

theorem slice?_eq {xs : List α} {first last : Nat} (h : first ≤ last) (h' : last ≤ xs.length) :
    slice? xs first last = some ((xs.drop first).take (last - first)) :=
  if_pos ⟨h, h'⟩

/-- No window goes past the end of the list. -/
theorem windows?_eq {xs : List α} {size : Nat} (h : size ≠ 0) :
    windows? size xs
      = some ((List.range (xs.length + 1 - size)).map fun i => (xs.drop i).take size) := by
  rw [windows?, if_neg h]
  apply mapM_some
  intro i hi
  rw [List.mem_range] at hi
  rw [slice?_eq (Nat.le_add_right i size) (by omega), Nat.add_sub_cancel_left]

/-- **What a list contains is one of its windows**, the last one included. -/
theorem infix_iff_window {needle hay : List α} :
    needle <:+: hay ↔
      ∃ i < hay.length + 1 - needle.length, (hay.drop i).take needle.length = needle := by
  constructor
  · rintro ⟨before, after, rfl⟩
    refine ⟨before.length, ?_, ?_⟩
    · simp only [List.length_append]
      omega
    · rw [List.append_assoc, List.drop_left, List.take_left]
  · rintro ⟨i, -, hi⟩
    have hwindow : (hay.drop i).take needle.length <:+: hay :=
      (List.take_prefix _ _).isInfix.trans (List.drop_suffix _ _).isInfix
    rwa [hi] at hwindow

variable [DecidableEq α]

/-! ## Section 2: Searches by stretches -/

/-- Compare what is sought with all windows of its length.  What is empty is
    everywhere. -/
def inWindows? (needle hay : List α) : Option Bool :=
  if needle.isEmpty then some true
  else (windows? needle.length hay).map fun ws => ws.any (· == needle)

/-- Compare what is sought with the first stretch of its length, if the list is
    as long. -/
def atStart? (needle hay : List α) : Option Bool :=
  if needle.length ≤ hay.length then (slice? hay 0 needle.length).map (· == needle)
  else some false

/-- Compare what is sought with the last stretch of its length, if the list is
    as long. -/
def atEnd? (needle hay : List α) : Option Bool :=
  if needle.length ≤ hay.length then
    (slice? hay (hay.length - needle.length) hay.length).map (· == needle)
  else some false

theorem inWindows?_eq (needle hay : List α) :
    inWindows? needle hay = some (contains needle hay) := by
  unfold inWindows?
  rw [contains_eq]
  by_cases hempty : needle = []
  · simp [hempty]
  · have hsize : needle.length ≠ 0 := mt List.length_eq_zero_iff.mp hempty
    rw [if_neg (mt List.isEmpty_iff.mp hempty), windows?_eq hsize, Option.map_some]
    congr 1
    rw [Bool.eq_iff_iff, decide_eq_true_iff, infix_iff_window]
    simp [List.any_eq_true]

theorem atStart?_eq (needle hay : List α) :
    atStart? needle hay = some (startsWith needle hay) := by
  unfold atStart?
  rw [startsWith_eq]
  by_cases hlength : needle.length ≤ hay.length
  · rw [if_pos hlength, slice?_eq (Nat.zero_le _) hlength, Option.map_some]
    congr 1
    rw [Bool.eq_iff_iff, decide_eq_true_iff, List.prefix_iff_eq_take, beq_iff_eq]
    exact eq_comm
  · rw [if_neg hlength, eq_comm]
    simpa using fun h => hlength (List.IsPrefix.length_le h)

theorem atEnd?_eq (needle hay : List α) : atEnd? needle hay = some (endsWith needle hay) := by
  unfold atEnd?
  rw [endsWith_eq]
  by_cases hlength : needle.length ≤ hay.length
  · rw [if_pos hlength, slice?_eq (Nat.sub_le _ _) (Nat.le_refl _), Option.map_some]
    congr 1
    rw [Bool.eq_iff_iff, decide_eq_true_iff, List.suffix_iff_eq_drop, beq_iff_eq,
      List.take_of_length_le (by rw [List.length_drop])]
    exact eq_comm
  · rw [if_neg hlength, eq_comm]
    simpa using fun h => hlength (List.IsSuffix.length_le h)

end Search

/-- A comparison that is made by taking stretches. -/
def Comparison.search? (c : Comparison) (hay needle : Bytes) : Option Bool :=
  match c with
  | .equals => some (hay == needle)
  | .contains => Search.inWindows? needle hay
  | .startsWith => Search.atStart? needle hay
  | .endsWith => Search.atEnd? needle hay

/-- **A search never fails**, and ends with what the comparison says. -/
theorem Comparison.search?_eq (c : Comparison) (hay needle : Bytes) :
    c.search? hay needle = some (c.holds hay needle) := by
  cases c with
  | equals => rfl
  | contains => exact Search.inWindows?_eq needle hay
  | startsWith => exact Search.atStart?_eq needle hay
  | endsWith => exact Search.atEnd?_eq needle hay

/-! ## Section 3: What follows from what -/

namespace Comparison

/-- What is equal starts and ends with what is sought, and whatever starts or
    ends with it contains it. -/
theorem Relates.weaken (hay needle : Bytes) :
    (equals.Relates hay needle →
      startsWith.Relates hay needle ∧ endsWith.Relates hay needle) ∧
    (startsWith.Relates hay needle → contains.Relates hay needle) ∧
    (endsWith.Relates hay needle → contains.Relates hay needle) := by
  refine ⟨?_, List.IsPrefix.isInfix, List.IsSuffix.isInfix⟩
  rintro rfl
  exact ⟨List.prefix_refl hay, List.suffix_refl hay⟩

end Comparison

namespace Config

/-- **Texts are found wherever they are.**  No search fails, whatever the two
    lengths are.  The conditions that look for an argument, with or without
    regard to case, hold exactly where content is the argument, or has something
    in front of it or behind it, as the comparison allows.  So equality implies
    that content starts and ends with the argument, and either of these that
    it contains it. -/
theorem texts_are_found (pool : Pool) (r : Registry) (part : Int64) (arg : String)
    (caseSensitive : Bool) :
    let needle : Bytes :=
      if caseSensitive then Utf8.ofString arg else Utf8.encode (Lowercase.map arg.toList)
    let hay (p : Part) : Bytes :=
      if caseSensitive then p.content
      else Utf8.encode (Lowercase.map (Utf8.decodeLossy p.content))
    let here : Prop := part = 0 ∨ part = -1
    (∀ (c : Comparison) (bs sought : Bytes), c.search? bs sought = some (c.holds bs sought)) ∧
    ∃ find : Comparison → Condition,
      (∀ c, ((ofText ⟨c, caseSensitive⟩ part arg).build pool r).result = .ok (find c)) ∧
      ∀ p : Part,
        ((find .contains).holds ⟨p⟩ = true ↔ here ∧ ∃ a b, hay p = a ++ needle ++ b) ∧
        ((find .startsWith).holds ⟨p⟩ = true ↔ here ∧ ∃ b, hay p = needle ++ b) ∧
        ((find .endsWith).holds ⟨p⟩ = true ↔ here ∧ ∃ a, hay p = a ++ needle) ∧
        ((find .equals).holds ⟨p⟩ = true ↔ here ∧ hay p = needle) ∧
        ((find .equals).holds ⟨p⟩ = true →
          (find .startsWith).holds ⟨p⟩ = true ∧ (find .endsWith).holds ⟨p⟩ = true) ∧
        ((find .startsWith).holds ⟨p⟩ = true → (find .contains).holds ⟨p⟩ = true) ∧
        ((find .endsWith).holds ⟨p⟩ = true → (find .contains).holds ⟨p⟩ = true) := by
  intro needle hay here
  choose find hbuilt hfind using fun c => ofText_built pool r part arg ⟨c, caseSensitive⟩
  have hholds : ∀ c p, (find c).holds ⟨p⟩ = true ↔ here ∧ c.Relates (hay p) needle := by
    intro c p
    rw [hfind, Bool.and_eq_true]
    exact and_congr (by simp [namesPart, here]) (c.holds_iff _ _)
  refine ⟨Comparison.search?_eq, find, hbuilt, ?_⟩
  intro p
  obtain ⟨hequal, hstart, hend⟩ := Comparison.Relates.weaken (hay p) needle
  simp only [hholds]
  refine ⟨?_, ?_, ?_, Iff.rfl, ?_, ?_, ?_⟩
  · simp only [Comparison.Relates, List.IsInfix, eq_comm]
  · simp only [Comparison.Relates, List.IsPrefix, eq_comm]
  · simp only [Comparison.Relates, List.IsSuffix, eq_comm]
  · rintro ⟨hhere, h⟩
    exact ⟨⟨hhere, (hequal h).1⟩, hhere, (hequal h).2⟩
  · rintro ⟨hhere, h⟩
    exact ⟨hhere, hstart h⟩
  · rintro ⟨hhere, h⟩
    exact ⟨hhere, hend h⟩

/-- An argument that is found where it has almost been found before, and
    content that is the argument in other letters. -/
theorem texts_are_found_overlapping :
    let p : Part := ⟨Utf8.ofString "AAaB", ∅⟩
    let q : Part := ⟨Utf8.ofString "AAB", ∅⟩
    ∃ find : Comparison → Condition,
      (∀ c, ((ofText ⟨c, false⟩ (-1) "aaB").build .empty .discard).result = .ok (find c)) ∧
      ((find .endsWith).holds ⟨p⟩ = true ∧ (find .contains).holds ⟨p⟩ = true ∧
        (find .startsWith).holds ⟨p⟩ = false) ∧
      ∀ c, (find c).holds ⟨q⟩ = true := by
  intro p q
  obtain ⟨-, find, hbuilt, hfind⟩ := texts_are_found .empty .discard (-1) "aaB" false
  obtain ⟨-, hstart, hend, -, -, -, hcontains⟩ := hfind p
  obtain ⟨-, -, -, hequal, hends, hstarts, -⟩ := hfind q
  have hlast : (find .endsWith).holds ⟨p⟩ = true :=
    hend.mpr ⟨Or.inr rfl, Utf8.ofString "a", by decide⟩
  have hfirst : (find .startsWith).holds ⟨p⟩ = false := by
    rw [Bool.eq_false_iff, ne_eq, hstart]
    rintro ⟨-, after, hafter⟩
    have hprefix : Utf8.ofString "aab" <+: Utf8.ofString "aaab" := ⟨after, hafter.symm⟩
    exact absurd hprefix (by decide)
  have hsame : (find .equals).holds ⟨q⟩ = true := hequal.mpr ⟨Or.inr rfl, by decide⟩
  refine ⟨find, hbuilt, ⟨hlast, hcontains hlast, hfirst⟩, ?_⟩
  intro c
  cases c with
  | equals => exact hsame
  | contains => exact hstarts (hends hsame).1
  | startsWith => exact (hends hsame).1
  | endsWith => exact (hends hsame).2

end Config

end BatchFilter
