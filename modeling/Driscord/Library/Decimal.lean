import Mathlib.Data.Nat.Digits.Lemmas
import Mathlib.Tactic

/-!
# Decimal text

The digits of a number as ASCII text, and the number that a text of digits stands
for.  Leading zeros are read and never written.

Main results:

- Theorem `ofDecimal_decimal`: the text of a number is read back.
- Theorem `decimal_injective`: different numbers have different texts.
- Theorem `digit_of_mem_decimal`: the text has nothing but digits.
-/

namespace Driscord
namespace Library

/-- The digits of a number. -/
def decimal (number : ℕ) : List UInt8 :=
  if number = 0 then [48]
  else (Nat.digits 10 number).reverse.map fun digit => UInt8.ofNat (48 + digit)

/-- `0` to `9`. -/
def isDigit (byte : UInt8) : Bool :=
  48 ≤ byte && byte ≤ 57

/-- The value of a text of digits, the first one first. -/
def decimalValue (text : List UInt8) : ℕ :=
  text.foldl (fun number byte => 10 * number + (byte.toNat - 48)) 0

/-- The number that a text stands for, if it has digits only. -/
def ofDecimal (text : List UInt8) : Option ℕ :=
  if text ≠ [] ∧ text.all isDigit then some (decimalValue text) else none

theorem toNat_digit {digit : ℕ} (h : digit < 10) :
    (UInt8.ofNat (48 + digit)).toNat = 48 + digit := by
  rw [UInt8.toNat_ofNat']
  omega

theorem isDigit_digit {digit : ℕ} (h : digit < 10) : isDigit (UInt8.ofNat (48 + digit)) = true := by
  have hvalue := toNat_digit h
  simp only [isDigit, Bool.and_eq_true, decide_eq_true_eq, UInt8.le_iff_toNat_le, hvalue]
  constructor
  · exact Nat.le_add_right 48 digit
  · exact Nat.le_of_lt_succ (Nat.add_lt_add_left h 48)

/-- Digits are read back, the last one first. -/
theorem decimalValue_digits {digits : List ℕ} (h : ∀ digit ∈ digits, digit < 10) :
    decimalValue (digits.reverse.map fun digit => UInt8.ofNat (48 + digit)) =
      Nat.ofDigits 10 digits := by
  induction digits with
  | nil => rfl
  | cons digit digits ih =>
      have hlast := toNat_digit (h digit List.mem_cons_self)
      have hrest := ih fun other hother => h other (List.mem_cons_of_mem digit hother)
      rw [decimalValue] at hrest
      rw [decimalValue, List.reverse_cons, List.map_append, List.foldl_append, hrest,
        List.map_singleton, List.foldl_cons, List.foldl_nil, hlast, Nat.ofDigits_cons]
      omega

theorem decimal_ne_nil (number : ℕ) : decimal number ≠ [] := by
  unfold decimal
  split
  · exact List.cons_ne_nil _ _
  · rename_i hnumber
    have hdigits : Nat.digits 10 number ≠ [] := Nat.digits_ne_nil_iff_ne_zero.mpr hnumber
    simpa using hdigits

/-- The text has nothing but digits. -/
theorem digit_of_mem_decimal {number : ℕ} {byte : UInt8} (h : byte ∈ decimal number) :
    isDigit byte = true := by
  unfold decimal at h
  split at h
  · rw [List.mem_singleton.mp h]
    rfl
  · rcases List.mem_map.mp h with ⟨digit, hdigit, rfl⟩
    exact isDigit_digit (Nat.digits_lt_base (by omega) (List.mem_reverse.mp hdigit))

theorem decimalValue_decimal (number : ℕ) : decimalValue (decimal number) = number := by
  unfold decimal
  split
  · rename_i hzero
    rw [hzero]
    rfl
  · rw [decimalValue_digits fun digit hdigit => Nat.digits_lt_base (by omega) hdigit,
      Nat.ofDigits_digits]

/-- The text of a number is read back. -/
@[simp]
theorem ofDecimal_decimal (number : ℕ) : ofDecimal (decimal number) = some number := by
  have hdigits : (decimal number).all isDigit = true :=
    List.all_eq_true.mpr fun byte hbyte => digit_of_mem_decimal hbyte
  rw [ofDecimal, if_pos ⟨decimal_ne_nil number, hdigits⟩, decimalValue_decimal]

/-- Different numbers have different texts. -/
theorem decimal_injective : Function.Injective decimal := by
  intro first second hsame
  rw [← decimalValue_decimal first, hsame, decimalValue_decimal]

end Library
end Driscord
