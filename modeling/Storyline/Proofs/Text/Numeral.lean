-- SUMMARY: Numbers are read back from the digits they are written in.
import Mathlib.Data.Nat.Digits.Defs
import Storyline.Text.Blank
import Storyline.Text.Numeral

/-!
# Digits

A number is written by its last digit and the number before that, in any base up to sixteen, and read in the
same way.
-/

namespace Storyline.Text

variable {base d : Nat} {c : Char} {s t : List Char}

/-- A digit has its value in every base. -/
theorem hexDigit?_digitChar (h : d < 16) : hexDigit? d.digitChar = some d := by
  revert d
  decide

theorem digitsFrom_append (front : Nat) :
    digitsFrom base front (s ++ t) = (digitsFrom base front s).bind (digitsFrom base · t) := by
  induction s generalizing front with
  | nil => rfl
  | cons c rest ih =>
    rw [List.cons_append, digitsFrom, digitsFrom]
    cases hexDigit? c with
    | none => rfl
    | some d =>
      dsimp only
      split
      · exact ih _
      · rfl

theorem digitsFrom_toDigits (hbase : 1 < base) (hsixteen : base ≤ 16) (n : Nat) :
    digitsFrom base 0 (Nat.toDigits base n) = some n := by
  induction n using Nat.strong_induction_on with
  | h n ih =>
    have hlast (front : Nat) {d : Nat} (hd : d < base) :
        digitsFrom base front [d.digitChar] = some (front * base + d) := by
      simp [digitsFrom, hexDigit?_digitChar (Nat.lt_of_lt_of_le hd hsixteen), hd]
    by_cases hn : n < base
    · rw [Nat.toDigits_of_lt_base hn, hlast 0 hn, Nat.zero_mul, Nat.zero_add]
    · have hle : base ≤ n := Nat.le_of_not_lt hn
      have hfront := ih (n / base) (Nat.div_lt_self (by omega) hbase)
      rw [Nat.toDigits_of_base_le hbase hle, digitsFrom_append, hfront, Option.bind_some,
        hlast _ (Nat.mod_lt n (by omega)), Nat.div_add_mod']

/-- Numbers are read as they are written. -/
theorem digits?_toDigits (hbase : 1 < base) (hsixteen : base ≤ 16) (n : Nat) :
    digits? base (Nat.toDigits base n) = some n := by
  rw [digits?, if_neg (by simp [Nat.toDigits_ne_nil]), digitsFrom_toDigits hbase hsixteen]

theorem hexDigit?_isSome_of_mem_toDigits (hbase : 1 < base) (hsixteen : base ≤ 16) {n : Nat}
    (hc : c ∈ Nat.toDigits base n) : (hexDigit? c).isSome = true := by
  induction n using Nat.strong_induction_on with
  | h n ih =>
    have hdigit {d : Nat} (hd : d < base) (hc : c ∈ [d.digitChar]) : (hexDigit? c).isSome = true := by
      rw [List.mem_singleton.1 hc, hexDigit?_digitChar (Nat.lt_of_lt_of_le hd hsixteen)]
      rfl
    by_cases hn : n < base
    · rw [Nat.toDigits_of_lt_base hn] at hc
      exact hdigit hn hc
    · rw [Nat.toDigits_of_base_le hbase (Nat.le_of_not_lt hn)] at hc
      rcases List.mem_append.1 hc with hc | hc
      · exact ih (n / base) (Nat.div_lt_self (by omega) hbase) hc
      · exact hdigit (Nat.mod_lt n (by omega)) hc

theorem digitsFrom_zeros (zeros : Nat) (s : List Char) :
    digitsFrom 16 0 (List.replicate zeros '0' ++ s) = digitsFrom 16 0 s := by
  induction zeros with
  | zero => rfl
  | succ zeros ih => exact ih

/-- Zeros before a numeral change nothing. -/
theorem digits?_hex (zeros n : Nat) : digits? 16 (List.replicate zeros '0' ++ hex n) = some n := by
  have hne : List.replicate zeros '0' ++ hex n ≠ [] := by simp [hex, Nat.toDigits_ne_nil]
  rw [digits?, if_neg (by simpa using hne), digitsFrom_zeros, hex, digitsFrom_toDigits (by decide) (by decide)]

/-! ## Decimal numerals -/

theorem isBlank_of_isDigit (h : isDigit c = true) : isBlank c = false := by
  have hdigit : 48 ≤ c.toNat ∧ c.toNat ≤ 57 := by
    rwa [isDigit, Bool.and_eq_true, decide_eq_true_eq, decide_eq_true_eq, Char.le_def, Char.le_def,
      UInt32.le_iff_toNat_le, UInt32.le_iff_toNat_le] at h
  simp only [isBlank, Bool.or_eq_false_iff, Bool.and_eq_false_iff, decide_eq_false_iff_not, beq_eq_false_iff_ne]
  omega

theorem isDigit_of_mem_toDigits {n : Nat} (h : c ∈ Nat.toDigits 10 n) : isDigit c = true :=
  Nat.isDigit_of_mem_toDigits (by decide) (Nat.le_refl 10) h

theorem toDigits_eq_cons (n : Nat) :
    ∃ d digits, Nat.toDigits 10 n = d :: digits ∧ isDigit d = true ∧ ∀ c ∈ digits, isDigit c = true := by
  obtain ⟨d, digits, hdigits⟩ := List.exists_cons_of_ne_nil (Nat.toDigits_ne_nil (n := n) (b := 10))
  have hall : ∀ c ∈ d :: digits, isDigit c = true := fun c hc =>
    isDigit_of_mem_toDigits (hdigits ▸ hc)
  exact ⟨d, digits, hdigits, List.forall_mem_cons.1 hall⟩

theorem toList_toString_natCast (n : Nat) : (toString (n : Int)).toList = Nat.toDigits 10 n :=
  Nat.toList_repr

theorem toList_toString_negSucc (n : Nat) :
    (toString (Int.negSucc n)).toList = '-' :: Nat.toDigits 10 (n + 1) := by
  rw [← Nat.toList_repr]
  exact String.toList_append

/-- A numeral is its digits, with a sign in front of those of a negative number. -/
theorem exists_digits_toString (n : Int) :
    ∃ digits, digits ≠ [] ∧ (∀ c ∈ digits, isDigit c = true) ∧
      ((toString n).toList = digits ∨ (toString n).toList = '-' :: digits) := by
  cases n with
  | ofNat n =>
    exact ⟨Nat.toDigits 10 n, Nat.toDigits_ne_nil, fun _ => isDigit_of_mem_toDigits,
      .inl (toList_toString_natCast n)⟩
  | negSucc n =>
    exact ⟨Nat.toDigits 10 (n + 1), Nat.toDigits_ne_nil, fun _ => isDigit_of_mem_toDigits,
      .inr (toList_toString_negSucc n)⟩

theorem level?_toString {n : Int} (h : fitsLevel n = true) : level? (toString n).toList = some n := by
  have hnumber (n : Nat) : digits? 10 (Nat.toDigits 10 n) = some n :=
    digits?_toDigits (by decide) (by decide) n
  cases n with
  | ofNat n =>
    obtain ⟨d, digits, hdigits, hd, -⟩ := toDigits_eq_cons n
    have hvalue := hnumber n
    rw [hdigits] at hvalue
    have hplus : d ≠ '+' := by rintro rfl; cases hd
    have hminus : d ≠ '-' := by rintro rfl; cases hd
    have hlevel : level? (d :: digits) =
        ((digits? 10 (d :: digits)).map Int.ofNat).filter fitsLevel := by
      unfold level?
      split
      · rename_i hcons
        cases hcons
        exact absurd rfl hplus
      · rename_i hcons
        cases hcons
        exact absurd rfl hminus
      · rfl
    rw [Int.ofNat_eq_natCast] at h ⊢
    rw [toList_toString_natCast, hdigits, hlevel, hvalue, Option.map_some, Option.filter_some]
    exact if_pos h
  | negSucc n =>
    have hlevel : level? ('-' :: Nat.toDigits 10 (n + 1)) =
        ((digits? 10 (Nat.toDigits 10 (n + 1))).map fun n => -Int.ofNat n).filter fitsLevel := rfl
    rw [toList_toString_negSucc, hlevel, hnumber, Option.map_some, Option.filter_some]
    exact if_pos h

end Storyline.Text
