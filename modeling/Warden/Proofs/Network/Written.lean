import Mathlib.Data.List.Induction
import Warden.Network.Interface
import Warden.Proofs.Files.Route

/-!
# An address has one written form

What is read as an address is what the address is written as: four numbers without leading zeros,
with points between them. So an address that was read stands in the text as it was read, and every
address can be read back from its written form.

## Main definitions

* `IsOutward`: a written address outside the range of the host itself

## Main results

* `intercalate_splitAtEach`: the pieces of a text, put together again, are the text
* `toDigits_numberOf`: digits without a leading zero are those of the number they stand for
* `text_of_ofText?`, `ofText?_text`: an address is written as it was read, and read as it was written
* `isOutward_iff`: a text leads out of the host if the address that it is read as does
* `firstAddress?_eq_some_iff`: the first address that is found is the first that leads out of the
  host
-/

namespace Warden.Network

open Warden.Text (splitAtEach)

/-! ## Pieces and digits -/

/-- **The pieces of a text**, put together again, are the text. -/
theorem intercalate_splitAtEach (cut : Char) (text : List Char) :
    [cut].intercalate (splitAtEach (· == cut) text) = text := by
  induction text with
  | nil => rfl
  | cons c text ih =>
    rw [splitAtEach]
    cases hpieces : splitAtEach (· == cut) text with
    | nil =>
      rw [hpieces] at ih
      obtain rfl : [] = text := ih
      rw [splitAtEach] at hpieces
      cases hpieces
    | cons piece pieces =>
      rw [hpieces] at ih
      by_cases hcut : (c == cut) = true
      · obtain rfl := eq_of_beq hcut
        simp [List.intercalate_cons_cons, ih]
      · rw [if_neg hcut]
        -- The first piece takes the character, whether more pieces follow or not.
        cases pieces with
        | nil => simpa using ih
        | cons next rest => simpa [List.intercalate_cons_cons] using ih

/-- **Pieces without a cut**, put together, are read apart again. -/
theorem splitAtEach_intercalate (cut : Char) {pieces : List (List Char)} (hne : pieces ≠ [])
    (hpieces : ∀ piece ∈ pieces, cut ∉ piece) :
    splitAtEach (· == cut) ([cut].intercalate pieces) = pieces := by
  induction pieces with
  | nil => exact absurd rfl hne
  | cons piece pieces ih =>
    have hpiece : ∀ c ∈ piece, (c == cut) = false := by
      intro c hc
      rw [beq_eq_false_iff_ne]
      rintro rfl
      exact hpieces piece List.mem_cons_self hc
    cases pieces with
    | nil =>
      rw [List.intercalate_singleton]
      exact Files.splitAtEach_of_no_cut _ piece hpiece
    | cons next rest =>
      rw [List.intercalate_cons_cons, List.append_assoc, List.singleton_append,
        Files.splitAtEach_append_cut _ _ _ _ hpiece (by simp),
        ih (by simp) fun piece hpiece => hpieces piece (List.mem_cons_of_mem _ hpiece)]

theorem numberOf_concat (digits : List Char) (c : Char) :
    Ipv4.numberOf (digits ++ [c]) = 10 * Ipv4.numberOf digits + (c.toNat - '0'.toNat) := by
  simp [Ipv4.numberOf, Nat.mul_comm]

theorem digitChar_of_isDigit {c : Char} (h : c.isDigit = true) :
    c.toNat - '0'.toNat < 10 ∧ (c.toNat - '0'.toNat).digitChar = c := by
  have hrange : 48 ≤ c.toNat ∧ c.toNat ≤ 57 := by
    simpa [Char.isDigit, Char.le_def, UInt32.le_iff_toNat_le] using h
  have hzero : '0'.toNat = 48 := rfl
  have hlt : c.toNat - '0'.toNat < 10 := by omega
  refine ⟨hlt, Char.toNat_inj.mp ?_⟩
  rw [Nat.toNat_digitChar_of_lt_ten hlt]
  omega

/-- **Digits without a leading zero** are those of the number they stand for. -/
theorem toDigits_numberOf {digits : List Char} (hne : digits ≠ [])
    (hdigits : ∀ c ∈ digits, c.isDigit = true)
    (hunpadded : digits.length = 1 ∨ digits.head? ≠ some '0') :
    Nat.toDigits 10 (Ipv4.numberOf digits) = digits := by
  induction digits using List.reverseRecOn with
  | nil => exact absurd rfl hne
  | append_singleton digits c ih =>
    obtain ⟨hlt, hchar⟩ := digitChar_of_isDigit (hdigits c (by simp))
    rw [numberOf_concat]
    cases digits with
    | nil =>
      rw [show Ipv4.numberOf [] = 0 from rfl, Nat.mul_zero, Nat.zero_add,
        Nat.toDigits_of_lt_base hlt, hchar, List.nil_append]
    | cons first rest =>
      have hfirst : first ≠ '0' := by simpa using hunpadded
      have hrest : Nat.toDigits 10 (Ipv4.numberOf (first :: rest)) = first :: rest :=
        ih (by simp) (fun d hd => hdigits d (List.mem_append_left _ hd))
          (.inr (by simpa using hfirst))
      -- A number that begins with another digit than zero is not zero.
      have hpos : 0 < Ipv4.numberOf (first :: rest) := by
        rw [Nat.pos_iff_ne_zero]
        intro hzero
        rw [hzero, Nat.toDigits_zero] at hrest
        exact hfirst (List.cons.inj hrest).1.symm
      rw [← Nat.toDigits_append_toDigits (by decide) hpos hlt, hrest,
        Nat.toDigits_of_lt_base hlt, hchar]

/-! ## Addresses -/

/-- A byte is written as it was read. -/
theorem toString_of_byte? {digits : List Char} {byte : UInt8}
    (h : Ipv4.byte? digits = some byte) : toString byte = String.ofList digits := by
  rw [Ipv4.byte?] at h
  split_ifs at h with hvalid
  obtain rfl := Option.some.inj h
  simp only [Bool.and_eq_true, Bool.not_eq_true', Bool.and_eq_false_iff, List.isEmpty_eq_false_iff,
    decide_eq_true_eq, List.all_eq_true, bne_eq_false_iff_eq, beq_eq_false_iff_ne] at hvalid
  obtain ⟨⟨⟨⟨hne, hdigits⟩, -⟩, hunpadded⟩, hle⟩ := hvalid
  have hbyte : (UInt8.ofNat (Ipv4.numberOf digits)).toNat = Ipv4.numberOf digits :=
    Nat.mod_eq_of_lt (Nat.lt_succ_of_le hle)
  calc toString (UInt8.ofNat (Ipv4.numberOf digits))
    _ = toString (UInt8.ofNat (Ipv4.numberOf digits)).toNat := rfl
    _ = String.ofList (Nat.toDigits 10 (Ipv4.numberOf digits)) := by
      rw [hbyte, Nat.toString_eq_ofList_toDigits]
    _ = String.ofList digits := by rw [toDigits_numberOf hne hdigits hunpadded]

/-- The digits of the bytes of an address. -/
def digitsOf (ip : Ipv4) : List (List Char) :=
  [ip.first, ip.second, ip.third, ip.fourth].map fun byte => (toString byte).toList

theorem toList_text (ip : Ipv4) : ip.text.toList = ['.'].intercalate (digitsOf ip) := by
  have hwritten : ip.text = toString ip.first ++ "." ++ toString ip.second ++ "." ++
      toString ip.third ++ "." ++ toString ip.fourth := rfl
  rw [hwritten]
  simp [digitsOf, List.intercalate_cons_cons]

/-- **An address is written** as it was read. -/
theorem text_of_ofText? {text : String} {ip : Ipv4} (h : Ipv4.ofText? text = some ip) :
    ip.text = text := by
  rw [Ipv4.ofText?] at h
  split at h
  · next a b c d hpieces =>
    simp only [Option.bind_eq_bind, Option.bind_eq_some_iff, Option.pure_def,
      Option.some.injEq] at h
    obtain ⟨first, ha, second, hb, third, hc, fourth, hd, rfl⟩ := h
    have hwhole := intercalate_splitAtEach '.' text.toList
    rw [hpieces] at hwhole
    rw [← String.toList_inj, toList_text, ← hwhole]
    simp [digitsOf, toString_of_byte? ha, toString_of_byte? hb, toString_of_byte? hc,
      toString_of_byte? hd]
  · cases h

/-- There are 256 bytes, and each is read back from its digits. -/
theorem byte?_toDigits : ∀ n < 256, Ipv4.byte? (Nat.toDigits 10 n) = some (UInt8.ofNat n) := by
  decide +kernel

theorem toList_toString (byte : UInt8) : (toString byte).toList = Nat.toDigits 10 byte.toNat :=
  Nat.toList_repr

theorem byte?_toString (byte : UInt8) : Ipv4.byte? (toString byte).toList = some byte := by
  rw [toList_toString, byte?_toDigits byte.toNat byte.toNat_lt, UInt8.ofNat_toNat]

/-- **An address is read** as it was written. -/
theorem ofText?_text (ip : Ipv4) : Ipv4.ofText? ip.text = some ip := by
  have hpieces : splitAtEach (· == '.') ip.text.toList = digitsOf ip := by
    rw [toList_text]
    refine splitAtEach_intercalate '.' (by simp [digitsOf]) fun piece hpiece hpoint => ?_
    obtain ⟨byte, -, rfl⟩ := List.mem_map.mp hpiece
    rw [toList_toString] at hpoint
    -- The point is no digit.
    exact absurd (Nat.isDigit_of_mem_toDigits (by decide) (by decide) hpoint) (by decide)
  rw [Ipv4.ofText?, hpieces]
  simp [digitsOf, byte?_toString]

/-- The text is a written address outside the range of the host itself, which is that of the first
number 127. -/
def IsOutward (text : String) : Prop :=
  ∃ a b c d : Nat, a ≤ 255 ∧ b ≤ 255 ∧ c ≤ 255 ∧ d ≤ 255 ∧ a ≠ 127 ∧ text = s!"{a}.{b}.{c}.{d}"

/-- A text leads out of the host if the address that it is read as does. -/
theorem isOutward_iff {text : String} :
    IsOutward text ↔ ∃ ip, Ipv4.ofText? text = some ip ∧ ip.isLoopback = false := by
  constructor
  · rintro ⟨a, b, c, d, ha, hb, hc, hd, hfirst, rfl⟩
    have hbyte : ∀ n : Nat, n ≤ 255 → (UInt8.ofNat n).toNat = n :=
      fun n hn => Nat.mod_eq_of_lt (Nat.lt_succ_of_le hn)
    have htext : Ipv4.text ⟨.ofNat a, .ofNat b, .ofNat c, .ofNat d⟩ = s!"{a}.{b}.{c}.{d}" := by
      have hdigits : ∀ n : Nat, n ≤ 255 → toString (UInt8.ofNat n) = toString n :=
        fun n hn => congrArg toString (hbyte n hn)
      rw [Ipv4.text, hdigits a ha, hdigits b hb, hdigits c hc, hdigits d hd]
    refine ⟨_, htext ▸ ofText?_text _, ?_⟩
    rw [Ipv4.isLoopback, beq_eq_false_iff_ne]
    intro heq
    exact hfirst ((hbyte a ha).symm.trans (congrArg UInt8.toNat heq))
  · rintro ⟨ip, hip, hloop⟩
    have hle : ∀ byte : UInt8, byte.toNat ≤ 255 := fun byte => Nat.le_of_lt_succ byte.toNat_lt
    have hfirst : ip.first ≠ 127 := by simpa [Ipv4.isLoopback] using hloop
    exact ⟨ip.first.toNat, ip.second.toNat, ip.third.toNat, ip.fourth.toNat, hle _, hle _, hle _,
      hle _, fun heq => hfirst (UInt8.toNat_inj.mp heq), (text_of_ofText? hip).symm⟩

/-! ## The first address -/

/-- The address is the first in a list that leads out of the host. -/
def IsFirstOutward (addresses : List String) (address : String) : Prop :=
  ∃ before after, addresses = before ++ address :: after ∧ IsOutward address ∧
    ∀ other ∈ before, ¬ IsOutward other

/-- **The first address that is found** is the first in the list that leads out of the host. -/
theorem firstAddress?_eq_some_iff {addresses : List String} {address : String} :
    firstAddress? addresses = some address ↔ IsFirstOutward addresses address := by
  -- An address that is found is written as the text that it was read from.
  have hfound : ∀ text found : String, ((Ipv4.ofText? text).bind fun ip =>
      if ip.isLoopback then none else some ip.text) = some found ↔ text = found ∧ IsOutward text := by
    intro text found
    rw [isOutward_iff, Option.bind_eq_some_iff]
    constructor
    · rintro ⟨ip, hip, hlast⟩
      split_ifs at hlast with hloop
      exact ⟨(text_of_ofText? hip).symm.trans (Option.some.inj hlast), ip, hip,
        Bool.eq_false_iff.mpr hloop⟩
    · rintro ⟨rfl, ip, hip, hloop⟩
      exact ⟨ip, hip, by rw [hloop, text_of_ofText? hip]; rfl⟩
  rw [firstAddress?, List.findSome?_eq_some_iff]
  constructor
  · rintro ⟨before, text, after, rfl, htext, hbefore⟩
    obtain ⟨rfl, houtward⟩ := (hfound text address).mp htext
    refine ⟨before, after, rfl, houtward, fun other hother hout => ?_⟩
    cases (hbefore other hother).symm.trans ((hfound other other).mpr ⟨rfl, hout⟩)
  · rintro ⟨before, after, rfl, houtward, hbefore⟩
    refine ⟨before, address, after, rfl, (hfound _ _).mpr ⟨rfl, houtward⟩, fun other hother => ?_⟩
    rw [Option.eq_none_iff_forall_not_mem]
    intro found hmem
    exact hbefore other hother ((hfound other found).mp hmem).2

theorem isOutward_of_firstAddress? {addresses : List String} {address : String}
    (h : firstAddress? addresses = some address) : address ∈ addresses ∧ IsOutward address := by
  obtain ⟨before, after, rfl, houtward, -⟩ := firstAddress?_eq_some_iff.mp h
  exact ⟨by simp, houtward⟩

end Warden.Network
