import HeaderBindings.Proofs.Lookup
import HeaderBindings.Text.Uppercase
import Mathlib

/-! Upper case is reached at once: it starts with a character that is its own upper case. An
underscore, a brace or a line feed comes of nothing but itself. All this is read off the tables. The
code points that change and those they change to are two numbers, a bit for each code point, with
no bit in common. -/

namespace HeaderBindings.Text

/-- The bits `first`, `first + step`, …, `count` of them. -/
def bits (first step : Nat) : Nat → Nat
  | 0 => 0
  | count + 1 => 2 ^ first ||| bits (first + step) step count

/-- The bits of all of some numbers. -/
def union (numbers : List Nat) : Nat :=
  numbers.foldr (· ||| ·) 0

theorem testBit_bits {first step count i : Nat} (h : i < count) :
    (bits first step count).testBit (first + step * i) := by
  induction count generalizing first i with
  | zero => cases h
  | succ count ih =>
    rw [bits, Nat.testBit_or]
    cases i with
    | zero => rw [Nat.mul_zero, Nat.add_zero, Nat.testBit_two_pow_self, Bool.true_or]
    | succ i =>
      have hnext : first + step * (i + 1) = first + step + step * i := by
        rw [Nat.mul_succ, Nat.add_comm (step * i), Nat.add_assoc]
      rw [hnext, ih (Nat.lt_of_succ_lt_succ h), Bool.or_true]

theorem testBit_union {numbers : List Nat} {m i : Nat} (hm : m ∈ numbers) (hi : m.testBit i) :
    (union numbers).testBit i := by
  induction numbers with
  | nil => cases hm
  | cons k rest ih =>
    rw [union, List.foldr_cons, Nat.testBit_or]
    rcases List.mem_cons.1 hm with rfl | hm
    · rw [hi, Bool.true_or]
    · rw [← union, ih hm, Bool.or_true]

namespace CaseRun

/-- Number of code points of a run. -/
def count (r : CaseRun) : Nat :=
  (r.last - r.first) / r.step + 1

/-- The small letters of ASCII. -/
def ascii : CaseRun :=
  ⟨0x61, 0x7A, 1, 0x41⟩

variable {r : CaseRun} {n : Nat}

theorem exists_of_covers (h : r.covers n) :
    ∃ i < r.count, n = r.first + r.step * i ∧ r.image n = r.upper + r.step * i := by
  simp only [covers, Bool.and_eq_true, decide_eq_true_eq, beq_iff_eq] at h
  obtain ⟨⟨hfirst, hlast⟩, hmod⟩ := h
  have hsteps : r.step * ((n - r.first) / r.step) = n - r.first :=
    Nat.mul_div_cancel' (Nat.dvd_of_mod_eq_zero hmod)
  refine ⟨(n - r.first) / r.step, ?_, ?_, ?_⟩
  · exact Nat.lt_succ_of_le (Nat.div_le_div_right (Nat.sub_le_sub_right hlast _))
  · rw [hsteps, Nat.add_sub_cancel' hfirst]
  · rw [hsteps, image]

end CaseRun

/-- The code points that have another upper case. -/
def lowerBits : Nat :=
  union ((CaseRun.ascii :: caseRuns).map (fun r => bits r.first r.step r.count) ++
    longUppercase.map fun entry => 2 ^ entry.1)

/-- The code points that an upper case beyond ASCII starts with. -/
def upperBits : Nat :=
  union (caseRuns.map (fun r => bits r.upper r.step r.count) ++
    longUppercase.map fun entry => 2 ^ entry.2.headD 0)

theorem lower_and_upper : lowerBits &&& upperBits = 0 := by decide +kernel

theorem caseRuns_valid : ∀ r ∈ caseRuns,
    r.upper + (r.last - r.first) < 0xD800 ∨
      0xDFFF < r.upper ∧ r.upper + (r.last - r.first) < 0x110000 := by
  decide +kernel

theorem longUppercase_valid : ∀ entry ∈ longUppercase,
    entry.2 ≠ [] ∧ ∀ p ∈ entry.2, p.isValidChar := by
  decide +kernel

/-- A character that is no letter and in no upper case. -/
structure Caseless (x : Char) : Prop where
  isAlpha : x.isAlpha = false
  not_upper : upperBits.testBit x.toNat = false
  not_long : ∀ entry ∈ longUppercase, x.toNat ∉ entry.2

theorem caseless_of_mem {x : Char} (h : x ∈ ['_', '\x7b', '\x7d', '\n']) : Caseless x := by
  simp only [List.mem_cons, List.not_mem_nil, or_false] at h
  rcases h with rfl | rfl | rfl | rfl
  · exact ⟨by decide, by decide +kernel, by decide +kernel⟩
  · exact ⟨by decide, by decide +kernel, by decide +kernel⟩
  · exact ⟨by decide, by decide +kernel, by decide +kernel⟩
  · exact ⟨by decide, by decide +kernel, by decide +kernel⟩

theorem caseless_underscore : Caseless '_' :=
  caseless_of_mem (by simp)

variable {n p : Nat}

theorem lower_of_covers {r : CaseRun} (hr : r ∈ CaseRun.ascii :: caseRuns) (h : r.covers n) :
    lowerBits.testBit n := by
  obtain ⟨i, hi, hn, -⟩ := r.exists_of_covers h
  rw [hn]
  exact testBit_union (List.mem_append_left _ (List.mem_map_of_mem hr)) (testBit_bits hi)

theorem lower_of_long {points : List Nat} (h : (n, points) ∈ longUppercase) :
    lowerBits.testBit n :=
  testBit_union (List.mem_append_right _ (List.mem_map_of_mem h)) Nat.testBit_two_pow_self

theorem upper_image {r : CaseRun} (hr : r ∈ caseRuns) (h : r.covers n) :
    upperBits.testBit (r.image n) := by
  obtain ⟨i, hi, -, hn⟩ := r.exists_of_covers h
  rw [hn]
  exact testBit_union (List.mem_append_left _ (List.mem_map_of_mem hr)) (testBit_bits hi)

theorem upper_of_long {key : Nat} {points : List Nat} (h : (key, p :: points) ∈ longUppercase) :
    upperBits.testBit p :=
  testBit_union (List.mem_append_right _ (List.mem_map_of_mem h)) Nat.testBit_two_pow_self

theorem lower_eq_false_of_upper (h : upperBits.testBit p) : lowerBits.testBit p = false := by
  have hboth := congrArg (·.testBit p) lower_and_upper
  simpa [Nat.testBit_and, h] using hboth

theorem isValidChar_image {r : CaseRun} (hr : r ∈ caseRuns) (h : r.covers n) :
    (r.image n).isValidChar := by
  have hvalid := caseRuns_valid r hr
  simp only [CaseRun.covers, Bool.and_eq_true, decide_eq_true_eq] at h
  simp only [Nat.isValidChar, CaseRun.image]
  omega

/-- A code point that no table mentions is its own upper case. -/
theorem uppercasePoints_of_not_lower (h : lowerBits.testBit n = false) :
    uppercasePoints n = [n] := by
  have hlong : longUppercase.lookup n = none := by
    refine List.lookup_eq_none_iff.2 fun entry hentry => bne_iff_ne.2 fun hn => ?_
    obtain ⟨key, points⟩ := entry
    obtain rfl : n = key := hn
    rw [lower_of_long hentry] at h
    cases h
  have hruns : caseRuns.find? (·.covers n) = none := by
    refine List.find?_eq_none.2 fun r hr hcovers => ?_
    rw [lower_of_covers (List.mem_cons_of_mem _ hr) hcovers] at h
    cases h
  rw [uppercasePoints, hlong, hruns]

theorem toUpper_of_not_lower {c : Char} (h : lowerBits.testBit c.toNat = false) :
    c.toUpper = c := by
  refine Char.toUpper_eq_of_not_isLower fun hlower => ?_
  simp only [Char.isLower, Bool.and_eq_true, decide_eq_true_eq, ge_iff_le,
    UInt32.le_iff_toNat_le] at hlower
  have hcovers : CaseRun.ascii.covers c.toNat := by
    simp only [CaseRun.covers, Bool.and_eq_true, decide_eq_true_eq, beq_iff_eq]
    exact ⟨hlower, Nat.mod_one _⟩
  rw [lower_of_covers List.mem_cons_self hcovers] at h
  cases h

theorem uppercase_of_not_lower {c : Char} (h : lowerBits.testBit c.toNat = false) :
    uppercase c = [c] := by
  rw [uppercase, toUpper_of_not_lower h, uppercasePoints_of_not_lower h, List.map_cons,
    List.map_nil, Char.ofNat_toNat, ite_self]

theorem uppercase_of_upper (h : upperBits.testBit p) (hp : p.isValidChar) :
    uppercase (Char.ofNat p) = [Char.ofNat p] := by
  refine uppercase_of_not_lower ?_
  rw [Char.toNat_ofNat, if_pos hp]
  exact lower_eq_false_of_upper h

theorem toNat_toUpper_le (c : Char) : c.toUpper.toNat ≤ c.toNat := by
  by_cases hlower : c.isLower
  · rw [Char.toUpper_eq_of_isLower hlower, Char.toNat_ofNat]
    split <;> omega
  · rw [Char.toUpper_eq_of_not_isLower hlower]

/-- The ways in which a character comes to its upper case. -/
theorem uppercase_cases (c : Char) :
    (isAscii c ∧ uppercase c = [c.toUpper]) ∨ uppercase c = [c] ∨
    (∃ points, (c.toNat, points) ∈ longUppercase ∧ uppercase c = points.map Char.ofNat) ∨
    ∃ r ∈ caseRuns, r.covers c.toNat ∧ uppercase c = [Char.ofNat (r.image c.toNat)] := by
  by_cases hascii : isAscii c
  · exact .inl ⟨hascii, if_pos hascii⟩
  · rw [uppercase, if_neg hascii, uppercasePoints]
    split
    · next points hlong => exact .inr (.inr (.inl ⟨points, mem_of_lookup hlong, rfl⟩))
    · split
      · next r hfind =>
        have hcovers : r.covers c.toNat := by simpa using List.find?_some hfind
        exact .inr (.inr (.inr ⟨r, List.mem_of_find?_eq_some hfind, hcovers, rfl⟩))
      · exact .inr (.inl (by rw [List.map_cons, List.map_nil, Char.ofNat_toNat]))

/-- The upper case of a character starts with one that is its own upper case. -/
theorem exists_uppercase_eq_cons (c : Char) :
    ∃ head rest, uppercase c = head :: rest ∧ uppercase head = [head] := by
  obtain ⟨hascii, h⟩ | h | ⟨points, hmem, h⟩ | ⟨r, hr, hcovers, h⟩ := uppercase_cases c
  · refine ⟨_, _, h, ?_⟩
    have hstill : isAscii c.toUpper := by
      have hle := toNat_toUpper_le c
      simp only [isAscii, decide_eq_true_eq] at hascii ⊢
      omega
    rw [uppercase, if_pos hstill, Char.toUpper_toUpper_eq_toUpper]
  · exact ⟨_, _, h, h⟩
  · obtain ⟨hne, hvalid⟩ := longUppercase_valid _ hmem
    cases points with
    | nil => exact absurd rfl hne
    | cons p rest =>
      exact ⟨_, _, h, uppercase_of_upper (upper_of_long hmem) (hvalid p List.mem_cons_self)⟩
  · exact ⟨_, _, h, uppercase_of_upper (upper_image hr hcovers) (isValidChar_image hr hcovers)⟩

theorem ofNat_ne {x : Char} (hp : p.isValidChar) (hne : p ≠ x.toNat) : Char.ofNat p ≠ x := by
  intro h
  have hpoint := congrArg Char.toNat h
  rw [Char.toNat_ofNat, if_pos hp] at hpoint
  exact hne hpoint

theorem toUpper_ne {c x : Char} (hx : x.isAlpha = false) (h : c ≠ x) : c.toUpper ≠ x := by
  by_cases hlower : c.isLower
  · intro hupper
    have hisUpper := Char.isUpper_toUpper_eq_isAlpha c
    rw [Char.isAlpha, Bool.or_eq_false_iff] at hx
    rw [hupper, hx.1, Char.isAlpha, hlower, Bool.or_true] at hisUpper
    cases hisUpper
  · rwa [Char.toUpper_eq_of_not_isLower hlower]

/-- A character without case comes of no other one. -/
theorem notMem_uppercase {c x : Char} (hx : Caseless x) (h : c ≠ x) : x ∉ uppercase c := by
  obtain ⟨-, hc⟩ | hc | ⟨points, hmem, hc⟩ | ⟨r, hr, hcovers, hc⟩ := uppercase_cases c
  · rw [hc, List.mem_singleton]
    exact (toUpper_ne hx.isAlpha h).symm
  · rw [hc, List.mem_singleton]
    exact h.symm
  · rw [hc, List.mem_map]
    rintro ⟨p, hp, heq⟩
    have hvalid := (longUppercase_valid _ hmem).2 p hp
    refine ofNat_ne hvalid (fun hpoint => ?_) heq
    rw [hpoint] at hp
    exact hx.not_long _ hmem hp
  · rw [hc, List.mem_singleton]
    refine (ofNat_ne (isValidChar_image hr hcovers) fun hp => ?_).symm
    have hbit := upper_image hr hcovers
    rw [hp, hx.not_upper] at hbit
    cases hbit

end HeaderBindings.Text
