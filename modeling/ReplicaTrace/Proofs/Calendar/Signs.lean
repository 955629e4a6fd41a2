import Mathlib.Data.List.TakeWhile
import ReplicaTrace.Proofs.Calendar.Moments

/-!
# Slashes and colons of time stamps

Every item of a time stamp takes a stretch of the text that has no slash and no colon in it; these
are the signs between the items.  A text that is read as a time stamp therefore has two slashes and
then two colons, and nowhere another one.

* `Skips` : what an item takes.
* `exists_parts_of_readTimestamp` : the text between the signs.
* `readTimestamp_append_dateText` : a date is no time of day, whatever stands before it.
-/

namespace ReplicaTrace

namespace Calendar

open Text

/-! ### Items -/

/-- There is no slash and no colon in the text. -/
structure IsSignFree (cs : List Char) : Prop where
  slash : '/' ∉ cs
  colon : ':' ∉ cs

/-- What is taken from the text to get to the rest has no slash and no colon in it. -/
def Skips (cs rest : List Char) : Prop :=
  ∃ taken, cs = taken ++ rest ∧ IsSignFree taken

variable {cs rest rest' : List Char} {n width : ℕ}

theorem Skips.refl (cs : List Char) : Skips cs cs :=
  ⟨[], rfl, by simp, by simp⟩

theorem Skips.trans (h : Skips cs rest) (h' : Skips rest rest') : Skips cs rest' := by
  obtain ⟨taken, rfl, hfree⟩ := h
  obtain ⟨taken', rfl, hfree'⟩ := h'
  exact ⟨taken ++ taken', (List.append_assoc ..).symm, by simp [hfree.slash, hfree'.slash],
    by simp [hfree.colon, hfree'.colon]⟩

theorem Skips.cons {c : Char} (hslash : c ≠ '/') (hcolon : c ≠ ':') (h : Skips cs rest) :
    Skips (c :: cs) rest :=
  Skips.trans ⟨[c], rfl, by simpa using hslash.symm, by simpa using hcolon.symm⟩ h

theorem skips_dropWhile {p : Char → Bool} (hslash : p '/' = false) (hcolon : p ':' = false)
    (cs : List Char) : Skips cs (cs.dropWhile p) := by
  refine ⟨cs.takeWhile p, List.takeWhile_append_dropWhile.symm, fun h => ?_, fun h => ?_⟩
  · exact absurd (List.mem_takeWhile_imp h) (by simp [hslash])
  · exact absurd (List.mem_takeWhile_imp h) (by simp [hcolon])

theorem skips_trimStart (cs : List Char) : Skips cs (trimStart cs) :=
  skips_dropWhile (by decide) (by decide) cs

theorem skips_of_takeDigits {acc : ℕ} (h : takeDigits acc width cs = .ok (n, rest)) :
    Skips cs rest := by
  induction width generalizing acc cs with
  | zero =>
    cases h
    exact .refl _
  | succ width ih =>
    match cs with
    | [] =>
      cases h
      exact .refl []
    | c :: cs =>
      rw [takeDigits] at h
      split at h
      · cases h
        exact .refl _
      · next d hd =>
        split at h
        · cases h
        · refine .cons ?_ ?_ (ih h)
          · rintro rfl
            cases hd
          · rintro rfl
            cases hd

theorem skips_of_takeNumber (h : takeNumber width cs = .ok (n, rest)) : Skips cs rest := by
  unfold takeNumber at h
  split at h
  · cases h
  · split at h
    · exact skips_of_takeDigits h
    · cases h

theorem skips_of_takeField {low high : ℕ} (h : takeField low high cs = .ok (n, rest)) :
    Skips cs rest := by
  obtain ⟨⟨m, rest₁⟩, hnumber, h⟩ := except_bind_eq_ok_iff.1 h
  dsimp only at h
  split at h
  · cases h
    exact (skips_trimStart cs).trans (skips_of_takeNumber hnumber)
  · cases h

/-- The number of a year, whatever its sign and its bounds. -/
theorem skips_of_map_takeNumber {sign : ℕ × List Char → ℤ × List Char} {year : ℤ}
    (hsign : ∀ r, (sign r).2 = r.2)
    (h : ((takeNumber width cs).map sign >>= fun r =>
      if -0x80000000 ≤ r.1 ∧ r.1 < 0x80000000 then pure r else throw .outOfRange) =
        Except.ok (year, rest)) : Skips cs rest := by
  obtain ⟨r, hmap, h⟩ := except_bind_eq_ok_iff.1 h
  obtain ⟨r', hnumber, rfl⟩ := except_map_eq_ok_iff.1 hmap
  split at h
  · obtain rfl : r'.2 = rest := (hsign r').symm.trans (congrArg Prod.snd (Except.ok.inj h))
    exact skips_of_takeNumber hnumber
  · cases h

theorem skips_of_takeYear {year : ℤ} (h : takeYear cs = .ok (year, rest)) : Skips cs rest := by
  unfold takeYear at h
  refine (skips_trimStart cs).trans ?_
  split at h
  · next ds hds =>
    rw [hds]
    exact .cons (by decide) (by decide) (skips_of_map_takeNumber (fun _ => rfl) h)
  · next ds hds =>
    rw [hds]
    exact .cons (by decide) (by decide) (skips_of_map_takeNumber (fun _ => rfl) h)
  · exact skips_of_map_takeNumber (fun _ => rfl) h

theorem skips_of_takeFraction (h : takeFraction cs = .ok (n, rest)) : Skips cs rest := by
  unfold takeFraction at h
  split at h
  · obtain ⟨⟨m, rest₁⟩, hnumber, h⟩ := except_bind_eq_ok_iff.1 h
    cases h
    exact .cons (by decide) (by decide)
      ((skips_of_takeNumber hnumber).trans (skips_dropWhile (by decide) (by decide) rest₁))
  · cases h
    exact .refl cs

theorem eq_of_takeChar {expected : Char} (h : takeChar expected cs = .ok rest) :
    cs = expected :: rest := by
  unfold takeChar at h
  split at h
  · cases h
  · split at h
    · next heq =>
      cases h
      rw [heq]
    · cases h

/-! ### Time stamps -/

/-- **The signs of a time stamp** are two slashes and then two colons. -/
theorem exists_parts_of_readTimestamp {x : ℤ} (h : readTimestamp cs = .ok x) :
    ∃ year month dayHour minute second, cs = year ++ '/' :: (month ++ '/' :: (dayHour ++ ':' ::
        (minute ++ ':' :: second))) ∧
      ∀ part ∈ [year, month, dayHour, minute, second], IsSignFree part := by
  obtain ⟨⟨_, cs₁⟩, hyear, h⟩ := except_bind_eq_ok_iff.1 h
  obtain ⟨cs₂, hslash, h⟩ := except_bind_eq_ok_iff.1 h
  obtain ⟨⟨_, cs₃⟩, hmonth, h⟩ := except_bind_eq_ok_iff.1 h
  obtain ⟨cs₄, hslash', h⟩ := except_bind_eq_ok_iff.1 h
  obtain ⟨⟨_, cs₅⟩, hday, h⟩ := except_bind_eq_ok_iff.1 h
  obtain ⟨⟨_, cs₆⟩, hhour, h⟩ := except_bind_eq_ok_iff.1 h
  obtain ⟨cs₇, hcolon, h⟩ := except_bind_eq_ok_iff.1 h
  obtain ⟨⟨_, cs₈⟩, hminute, h⟩ := except_bind_eq_ok_iff.1 h
  obtain ⟨cs₉, hcolon', h⟩ := except_bind_eq_ok_iff.1 h
  obtain ⟨⟨_, cs₁₀⟩, hsecond, h⟩ := except_bind_eq_ok_iff.1 h
  obtain ⟨⟨_, cs₁₁⟩, hfraction, h⟩ := except_bind_eq_ok_iff.1 h
  -- nothing is left over
  obtain rfl : cs₁₁ = [] := by
    by_contra hne
    simp only [ne_eq, hne, not_false_eq_true, if_true] at h
    cases h
  obtain ⟨year, rfl, hyearFree⟩ := skips_of_takeYear hyear
  obtain ⟨month, hmonths, hmonthFree⟩ := skips_of_takeField hmonth
  obtain ⟨dayHour, hdays, hdayFree⟩ := (skips_of_takeField hday).trans (skips_of_takeField hhour)
  obtain ⟨minute, hminutes, hminuteFree⟩ := skips_of_takeField hminute
  obtain ⟨second, hseconds, hsecondFree⟩ :=
    (skips_of_takeField hsecond).trans (skips_of_takeFraction hfraction)
  refine ⟨year, month, dayHour, minute, second, ?_, ?_⟩
  · rw [eq_of_takeChar hslash, hmonths, eq_of_takeChar hslash', hdays, eq_of_takeChar hcolon,
      hminutes, eq_of_takeChar hcolon', hseconds, List.append_nil]
  · simp only [List.forall_mem_cons]
    exact ⟨hyearFree, hmonthFree, hdayFree, hminuteFree, hsecondFree, by simp⟩

/-- What follows the last sign of its kind comes after every such sign. -/
theorem suffix_of_append_eq_append_cons {c : Char} {as bs xs ys : List Char}
    (h : xs ++ ys = as ++ c :: bs) (hc : c ∉ ys) : ys <:+ bs := by
  rcases List.append_eq_append_iff.1 h with ⟨k, rfl, rfl⟩ | ⟨k, rfl, hk⟩
  · exact absurd (List.mem_append_right k List.mem_cons_self) hc
  · cases k with
    | nil =>
      obtain rfl : c :: bs = ys := hk
      exact absurd List.mem_cons_self hc
    | cons d k => exact ⟨k, (List.cons.inj hk).2.symm⟩

theorem colon_notMem_dateText (time : ℤ) : ':' ∉ dateText time := by
  have hdigits : ∀ width n, ':' ∉ padded width n := fun width n h =>
    absurd (isDigit_of_mem_padded h) (by decide)
  simp [dateText, writeDate, hdigits]

/-- A date does not end a time stamp, whatever stands before it: its slashes would come after the
colons. -/
theorem readTimestamp_append_dateText (before : List Char) (time x : ℤ) :
    readTimestamp (before ++ ' ' :: dateText time) ≠ .ok x := by
  intro h
  obtain ⟨year, month, dayHour, minute, second, hcs, hfree⟩ := exists_parts_of_readTimestamp h
  have hslash : '/' ∉ minute ++ ':' :: second := by
    simp [(hfree minute (by simp)).slash, (hfree second (by simp)).slash]
  have hcolon : ':' ∉ ' ' :: dateText time := by simp [colon_notMem_dateText]
  have hparts : before ++ ' ' :: dateText time =
      (year ++ '/' :: (month ++ '/' :: dayHour)) ++ ':' :: (minute ++ ':' :: second) := by
    simpa using hcs
  have hdate : '/' ∈ ' ' :: dateText time := by simp [dateText, writeDate]
  exact hslash ((suffix_of_append_eq_append_cons hparts hcolon).subset hdate)

end Calendar

end ReplicaTrace
