import ExprLang.Number.Decimal.Reading
import ExprLang.Number.Shortest
import ExprLang.Proofs.Number.Digits

/-!
# Numbers that are written with an exponent

A decimal in front of a power of ten is read as the decimal, which then is multiplied by the power.  The
letter between them ends every attempt to read it all as digits.  A large double is written in this
form: the digits of a decimal between one and ten, and a power that moves its point.

## Main definitions

* `Decimal.signChars` — the sign in front of a number.

## Main results

* `Decimal.read?_scientific` — a decimal with an exponent is read as its multiple.
* `Decimal.raise?_eq_none` — there is no multiple where there is no room for it.
* `Double.Scientific.chars_of_large` — **the digits of a large number are written as a decimal with an
  exponent**.
-/

namespace ExprLang
namespace Decimal

/-! ### Numbers with an exponent -/

/-- What is neither a digit nor a point nor an underscore ends a reading. -/
theorem Reading.finish_eq_none {cs : List Char} {c : Char} (hc : c ∈ cs) (hdigit : c.isDigit = false)
    (hpoint : c ≠ '.') (hunderscore : c ≠ '_') (st : Reading) : st.finish cs = none := by
  induction cs generalizing st with
  | nil => exact absurd hc List.not_mem_nil
  | cons c' cs ih =>
    have hround : c ∈ cs → ∀ (st : Reading) (d : Nat), st.roundOff d cs = none := by
      intro hc st d
      rw [Reading.roundOff, if_neg]
      rw [List.all_eq_true]
      exact fun hall => by simpa [hdigit, hunderscore] using hall c hc
    rcases List.mem_cons.mp hc with rfl | hc
    · simp [Reading.finish, hdigit, hpoint, hunderscore]
    · rw [Reading.finish]
      dsimp only
      repeat' split
      all_goals first | exact hround hc _ _ | exact ih hc _ | rfl

theorem readPlain?_eq_none_of_mem {cs : List Char} (h : 'e' ∈ cs) : readPlain? cs = none := by
  have hnone := fun {ds : List Char} (hds : 'e' ∈ ds) => Reading.finish_eq_none hds rfl (by decide) (by decide)
  unfold readPlain?
  split
  · exact hnone (List.mem_of_ne_of_mem (by decide) h) _
  · exact hnone (List.mem_of_ne_of_mem (by decide) h) _
  · exact hnone h _

theorem isDigit_or_eq_of_mem_magnitude {d : Decimal} {c : Char} (h : c ∈ d.magnitude) :
    c.isDigit ∨ c = '.' := by
  unfold magnitude at h
  split at h
  · exact .inl (isDigit_of_mem_whole h)
  · rcases List.mem_append.mp h with hwhole | hplaces
    · exact .inl (isDigit_of_mem_whole hwhole)
    · rcases List.mem_cons.mp hplaces with rfl | hplaces
      · exact .inr rfl
      · exact .inl (isDigit_of_mem_places hplaces)

/-- A sign. -/
def signChars (negative : Bool) : List Char := if negative then ['-'] else []

theorem readPlain?_signChars_magnitude (d : Decimal) (negative : Bool) :
    readPlain? (signChars negative ++ d.magnitude) = ofParts? negative d.coefficient d.scale := by
  rw [← d.finish_magnitude]
  cases negative with
  | true => rfl
  | false =>
    obtain ⟨c, cs, hcons, hc⟩ := d.exists_magnitude_eq_cons
    rw [hcons]
    exact readPlain?_of_isDigit hc

/-- A decimal behind a sign and before an exponent is read as a multiple of the decimal. -/
theorem read?_scientific (d : Decimal) (negative : Bool) (e : Nat) :
    read? (signChars negative ++ d.magnitude ++ 'e' :: '+' :: Nat.toDigits 10 e) =
      (ofParts? negative d.coefficient d.scale).bind fun base => base.raise? e := by
  -- no character of the mantissa is an exponent mark, so the text splits right behind it
  have hbase : ∀ c ∈ signChars negative ++ d.magnitude, (!(c == 'e' || c == 'E')) = true := by
    intro c hc
    rcases List.mem_append.mp hc with hsign | hdigits
    · cases negative with
      | true =>
        obtain rfl := List.mem_singleton.mp hsign
        decide
      | false => exact absurd hsign List.not_mem_nil
    · rcases isDigit_or_eq_of_mem_magnitude hdigits with hdigit | rfl
      · have hmarks : c ≠ 'e' ∧ c ≠ 'E' := by
          constructor <;> rintro rfl <;> exact absurd hdigit (by decide)
        simp [hmarks]
      · decide
  rw [read?, readPlain?_eq_none_of_mem (by simp)]
  dsimp only
  rw [readScientific?, List.dropWhile_append_of_pos hbase, List.takeWhile_append_of_pos hbase]
  simp [readPlain?_signChars_magnitude, readExponent?, readNat?_toDigits]

/-- A multiple that needs more than 96 bits is none. -/
theorem raise?_eq_none {d : Decimal} {k : Nat} (h : 2 ^ 96 ≤ d.coefficient * 10 ^ k) :
    d.raise? (d.scale + k) = none := by
  have hcoefficient := d.coefficient_lt
  have hk : k ≠ 0 := by
    rintro rfl
    omega
  rw [raise?, if_neg (by omega)]
  split
  · rfl
  · rw [Nat.add_sub_cancel_left, ofParts?, dif_neg (fun hfits => absurd h (Nat.not_le_of_lt hfits.1))]

end Decimal

namespace Double

/-! ### The form of large numbers -/

/-- Digits of at most 29 places before a power of ten that takes them beyond sixteen are written as a
decimal with an exponent. -/
theorem Scientific.chars_of_large {n k : Nat} (hn : n < 2 ^ 96) (hlength : (Nat.toDigits 10 n).length ≤ 29)
    (hlarge : 16 < (Nat.toDigits 10 n).length + k) :
    (⟨n, k⟩ : Scientific).chars =
      (⟨false, n, (Nat.toDigits 10 n).length - 1, hn, by omega⟩ : Decimal).magnitude ++
        'e' :: '+' :: Nat.toDigits 10 ((Nat.toDigits 10 n).length - 1 + k) := by
  have hpos : 0 < (Nat.toDigits 10 n).length := Nat.length_toDigits_pos
  have hdigits : Decimal.digits n ((Nat.toDigits 10 n).length - 1) = Nat.toDigits 10 n := by
    have hnone : (Nat.toDigits 10 n).length - 1 + 1 - (Nat.toDigits 10 n).length = 0 := by omega
    rw [Decimal.digits, hnone]
    rfl
  have hwhole : (Nat.toDigits 10 n).length - ((Nat.toDigits 10 n).length - 1) = 1 := by omega
  have hexponent : (((Nat.toDigits 10 n).length : Int) + k - 1).natAbs =
      (Nat.toDigits 10 n).length - 1 + k := by omega
  unfold chars Decimal.magnitude Decimal.whole Decimal.places
  dsimp only
  rw [if_neg (by simp; omega), if_neg (by simp; omega), if_neg (by simp; omega), if_neg (by omega),
    hdigits, hwhole, hexponent]
  -- the point is written only where a second digit follows it
  split
  · next d r rs h => simp [h]
  · next hshort =>
    obtain ⟨d, hd⟩ : ∃ d, Nat.toDigits 10 n = [d] := by
      rcases hds : Nat.toDigits 10 n with _ | ⟨d, _ | ⟨r, rs⟩⟩
      · exact absurd hds (List.ne_nil_of_length_pos hpos)
      · exact ⟨d, rfl⟩
      · exact absurd hds (hshort d r rs)
    simp [hd]

end Double
end ExprLang
