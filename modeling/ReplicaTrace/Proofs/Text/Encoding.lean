import Mathlib.Data.Nat.Notation
import Mathlib.Tactic.SplitIfs
import ReplicaTrace.Text.Utf8

/-!
# Text that was written as bytes

Encoded text is read back: each character is encoded as a first byte that tells how many bytes
follow, and none of the narrower bounds on the second byte concerns it.  A byte that is not of the
form `10xxxxxx` does not go on with an encoding, so that the bytes before it are read as if they
stood alone.

* `decode?_encode` : encoded text is read back.
* `pieces_append_cons` : a byte that goes on with nothing starts a new piece.
* `lossy_of_decode?` : reading with replacement characters changes nothing in a text.
-/

namespace ReplicaTrace

namespace Utf8

/-! ### First bytes and those that follow -/

theorem toNat_ofNat_of_lt {n : ℕ} (h : n < 256) : (UInt8.ofNat n).toNat = n :=
  UInt8.toNat_ofNat_of_lt' h

variable {b first second : UInt8} {rest : Bytes}

theorem lead_of_le (h : b.toNat ≤ 0x7F) : lead b = some (b.toNat, 0) := by
  rw [lead, if_pos (UInt8.le_iff_toNat_le.2 h)]

theorem lead_of_two (h₁ : 0xC2 ≤ b.toNat) (h₂ : b.toNat ≤ 0xDF) :
    lead b = some (b.toNat - 0xC0, 1) := by
  simp [lead, UInt8.le_iff_toNat_le, show ¬ b.toNat ≤ 127 by omega, h₁, h₂]

theorem lead_of_three (h₁ : 0xE0 ≤ b.toNat) (h₂ : b.toNat ≤ 0xEF) :
    lead b = some (b.toNat - 0xE0, 2) := by
  simp [lead, UInt8.le_iff_toNat_le, show ¬ b.toNat ≤ 127 by omega,
    show ¬ b.toNat ≤ 223 by omega, h₁, h₂]

theorem lead_of_four (h₁ : 0xF0 ≤ b.toNat) (h₂ : b.toNat ≤ 0xF4) :
    lead b = some (b.toNat - 0xF0, 3) := by
  simp [lead, UInt8.le_iff_toNat_le, show ¬ b.toNat ≤ 127 by omega,
    show ¬ b.toNat ≤ 223 by omega, show ¬ b.toNat ≤ 239 by omega, h₁, h₂]

theorem isTail_iff : isTail b = true ↔ 0x80 ≤ b.toNat ∧ b.toNat ≤ 0xBF := by
  simp [isTail, UInt8.le_iff_toNat_le]

/-- Four first bytes narrow the bounds of the second byte. -/
theorem mayFollow_one (htail : 0x80 ≤ second.toNat ∧ second.toNat ≤ 0xBF)
    (hE0 : first.toNat = 0xE0 → 0xA0 ≤ second.toNat)
    (hED : first.toNat = 0xED → second.toNat ≤ 0x9F)
    (hF0 : first.toNat = 0xF0 → 0x90 ≤ second.toNat)
    (hF4 : first.toNat = 0xF4 → second.toNat ≤ 0x8F) : mayFollow first 1 second = true := by
  rw [mayFollow, if_pos rfl]
  unfold isSecond
  simp only [beq_iff_eq, ← UInt8.toNat_inj]
  split_ifs with h₁ h₂ h₃ h₄
  · simpa [UInt8.le_iff_toNat_le, htail.2] using hE0 h₁
  · simpa [UInt8.le_iff_toNat_le, htail.1] using hED h₂
  · simpa [UInt8.le_iff_toNat_le, htail.2] using hF0 h₃
  · simpa [UInt8.le_iff_toNat_le, htail.1] using hF4 h₄
  · exact isTail_iff.2 htail

theorem follow_zero (bits size : ℕ) :
    follow first bits size 0 rest = (.char (Char.ofNat bits) size, rest) := by
  rw [follow]

theorem follow_succ {bits size missing : ℕ} (h : mayFollow first size b = true) :
    follow first bits size (missing + 1) (b :: rest) =
      follow first (bits * 64 + tailBits b) (size + 1) missing rest := by
  rw [follow, if_pos h]

theorem follow_stop {bits size missing : ℕ} (h : mayFollow first size b = false) :
    follow first bits size (missing + 1) (b :: rest) = (.illFormed size, b :: rest) := by
  rw [follow, if_neg (Bool.eq_false_iff.1 h)]

/-! ### One character -/

variable {n : ℕ}

/-- The byte with the six bits of a number. -/
theorem tailBits_ofNat : tailBits (.ofNat (n % 64 + 0x80)) = n % 64 := by
  have hbyte : (UInt8.ofNat (n % 64 + 0x80)).toNat = n % 64 + 0x80 := toNat_ofNat_of_lt (by omega)
  unfold tailBits
  omega

theorem mayFollow_tail {size : ℕ} (h : size ≠ 1) :
    mayFollow first size (.ofNat (n % 64 + 0x80)) = true := by
  rw [mayFollow, if_neg h, isTail_iff, toNat_ofNat_of_lt (by omega)]
  omega

theorem next_of_lt (h : n < 0x80) : next (.ofNat n) rest = (.char (Char.ofNat n) 1, rest) := by
  have hfirst : (UInt8.ofNat n).toNat = n :=
    toNat_ofNat_of_lt (by omega)
  rw [next, lead_of_le (by omega)]
  dsimp only
  rw [follow_zero, hfirst]

theorem next_of_two (h₁ : 0x80 ≤ n) (h₂ : n < 0x800) :
    next (.ofNat (n / 64 % 32 + 0xC0)) (.ofNat (n % 64 + 0x80) :: rest) =
      (.char (Char.ofNat n) 2, rest) := by
  have hfirst : (UInt8.ofNat (n / 64 % 32 + 0xC0)).toNat = n / 64 % 32 + 0xC0 :=
    toNat_ofNat_of_lt (by omega)
  have hsecond : (UInt8.ofNat (n % 64 + 0x80)).toNat = n % 64 + 0x80 :=
    toNat_ofNat_of_lt (by omega)
  rw [next, lead_of_two (by omega) (by omega)]
  dsimp only
  rw [follow_succ (mayFollow_one (by omega) (by omega) (by omega) (by omega) (by omega)),
    follow_zero, tailBits_ofNat, hfirst,
    show (n / 64 % 32 + 0xC0 - 0xC0) * 64 + n % 64 = n by omega]

theorem next_of_three (h₁ : 0x800 ≤ n) (h₂ : n < 0x10000) (hsurrogate : n < 0xD800 ∨ 0xDFFF < n) :
    next (.ofNat (n / 4096 % 16 + 0xE0))
        (.ofNat (n / 64 % 64 + 0x80) :: .ofNat (n % 64 + 0x80) :: rest) =
      (.char (Char.ofNat n) 3, rest) := by
  have hfirst : (UInt8.ofNat (n / 4096 % 16 + 0xE0)).toNat = n / 4096 % 16 + 0xE0 :=
    toNat_ofNat_of_lt (by omega)
  have hsecond : (UInt8.ofNat (n / 64 % 64 + 0x80)).toNat = n / 64 % 64 + 0x80 :=
    toNat_ofNat_of_lt (by omega)
  rw [next, lead_of_three (by omega) (by omega)]
  dsimp only
  rw [follow_succ (mayFollow_one (by omega) (by omega) (by omega) (by omega) (by omega)),
    follow_succ (mayFollow_tail (by omega)), follow_zero, tailBits_ofNat, tailBits_ofNat, hfirst,
    show ((n / 4096 % 16 + 0xE0 - 0xE0) * 64 + n / 64 % 64) * 64 + n % 64 = n by omega]

theorem next_of_four (h₁ : 0x10000 ≤ n) (h₂ : n < 0x110000) :
    next (.ofNat (n / 262144 % 8 + 0xF0)) (.ofNat (n / 4096 % 64 + 0x80) ::
        .ofNat (n / 64 % 64 + 0x80) :: .ofNat (n % 64 + 0x80) :: rest) =
      (.char (Char.ofNat n) 4, rest) := by
  have hfirst : (UInt8.ofNat (n / 262144 % 8 + 0xF0)).toNat = n / 262144 % 8 + 0xF0 :=
    toNat_ofNat_of_lt (by omega)
  have hsecond : (UInt8.ofNat (n / 4096 % 64 + 0x80)).toNat = n / 4096 % 64 + 0x80 :=
    toNat_ofNat_of_lt (by omega)
  rw [next, lead_of_four (by omega) (by omega)]
  dsimp only
  rw [follow_succ (mayFollow_one (by omega) (by omega) (by omega) (by omega) (by omega)),
    follow_succ (mayFollow_tail (by omega)), follow_succ (mayFollow_tail (by omega)), follow_zero,
    tailBits_ofNat, tailBits_ofNat, tailBits_ofNat, hfirst,
    show (((n / 262144 % 8 + 0xF0 - 0xF0) * 64 + n / 4096 % 64) * 64 + n / 64 % 64) * 64 +
      n % 64 = n by omega]

/-- The piece that an encoded character is. -/
def Piece.ofChar (c : Char) : Piece :=
  .char c (String.utf8EncodeChar c).length

/-- An encoded character is read back, whatever follows it. -/
theorem pieces_encodeChar_append (c : Char) (rest : Bytes) :
    pieces (String.utf8EncodeChar c ++ rest) = .ofChar c :: pieces rest := by
  have hc : Char.ofNat c.val.toNat = c := Char.ofNat_toNat c
  have hvalid : c.val.toNat < 0xD800 ∨ 0xDFFF < c.val.toNat ∧ c.val.toNat < 0x110000 := c.valid
  unfold Piece.ofChar String.utf8EncodeChar
  dsimp only
  generalize c.val.toNat = n at hc hvalid
  subst hc
  split_ifs with h₁ h₂ h₃
  · rw [List.cons_append, pieces_cons, List.nil_append, next_of_lt (by omega)]
    rfl
  · rw [List.cons_append, pieces_cons, List.cons_append, List.nil_append,
      next_of_two (by omega) (by omega)]
    rfl
  · rw [List.cons_append, pieces_cons, List.cons_append, List.cons_append, List.nil_append,
      next_of_three (by omega) (by omega) (by omega)]
    rfl
  · rw [List.cons_append, pieces_cons, List.cons_append, List.cons_append, List.cons_append,
      List.nil_append, next_of_four (by omega) (by omega)]
    rfl

/-! ### Texts -/

theorem encode_cons (c : Char) (cs : List Char) :
    encode (c :: cs) = String.utf8EncodeChar c ++ encode cs :=
  List.flatMap_cons

/-- Encoded text is read as its characters, and what follows as if it stood alone. -/
theorem pieces_encode_append (cs : List Char) (rest : Bytes) :
    pieces (encode cs ++ rest) = cs.map .ofChar ++ pieces rest := by
  induction cs with
  | nil => rfl
  | cons c cs ih =>
    rw [encode_cons, List.append_assoc, pieces_encodeChar_append, ih, List.map_cons,
      List.cons_append]

theorem map_char?_ofChar (cs : List Char) :
    (cs.map Piece.ofChar).map Piece.char? = cs.map some := by
  rw [List.map_map]
  rfl

theorem mapM_char?_eq_some_iff {ps : List Piece} {cs : List Char} :
    ps.mapM Piece.char? = some cs ↔ ps.map Piece.char? = cs.map some := by
  induction ps generalizing cs with
  | nil => cases cs <;> simp
  | cons p ps ih =>
    rw [List.mapM_cons]
    cases hp : p.char? with
    | none => cases cs <;> simp [hp]
    | some d =>
      cases cs with
      | nil => simp [Option.bind_eq_some_iff]
      | cons c cs => simpa [hp, ← ih, Option.bind_eq_some_iff] using and_comm

/-- **Encoded text is read back.** -/
theorem decode?_encode (cs : List Char) : decode? (encode cs) = some cs := by
  have hpieces : pieces (encode cs) = cs.map .ofChar := by
    simpa [pieces_nil] using pieces_encode_append cs []
  rw [decode?, hpieces, mapM_char?_eq_some_iff, map_char?_ofChar]

/-- Reading with replacement characters changes nothing in a text. -/
theorem lossy_of_decode? {bs : Bytes} {cs : List Char} (h : decode? bs = some cs) :
    lossy bs = cs := by
  rw [decode?, mapM_char?_eq_some_iff] at h
  have hchar : ∀ p : Piece, p.char?.getD '\uFFFD' = p.toChar := fun p => by cases p <;> rfl
  have hmap := congrArg (List.map fun o => o.getD '\uFFFD') h
  simpa [hchar, lossy, Function.comp_def] using hmap

/-! ### ASCII bytes -/

theorem not_ascii_ofNat (h : 0x80 ≤ n) (hn : n < 256) : ¬ (UInt8.ofNat n).toNat < 0x80 := by
  rw [toNat_ofNat_of_lt hn]
  omega

/-- An ASCII byte in an encoded text stands for a character of its own. -/
theorem exists_mem_of_mem_encode {cs : List Char} (h : b ∈ encode cs) (hb : b.toNat < 0x80) :
    ∃ c ∈ cs, c.toNat = b.toNat := by
  obtain ⟨c, hc, h⟩ := List.mem_flatMap.1 h
  refine ⟨c, hc, ?_⟩
  have hvalid : c.val.toNat < 0x110000 := by have := c.valid; omega
  change c.val.toNat = b.toNat
  unfold String.utf8EncodeChar at h
  dsimp only at h
  generalize c.val.toNat = n at h hvalid
  split_ifs at h with h₁ h₂ h₃
  · obtain rfl := List.mem_singleton.1 h
    exact (toNat_ofNat_of_lt (by omega)).symm
  all_goals
    -- the bytes of longer encodings are not ASCII
    simp only [List.mem_cons, List.not_mem_nil, or_false] at h
    exfalso
  · rcases h with rfl | rfl <;> exact not_ascii_ofNat (by omega) (by omega) hb
  · rcases h with rfl | rfl | rfl <;> exact not_ascii_ofNat (by omega) (by omega) hb
  · rcases h with rfl | rfl | rfl | rfl <;> exact not_ascii_ofNat (by omega) (by omega) hb

/-! ### Where pieces start -/

/-- A byte that may follow is one that goes on with an encoding. -/
theorem isTail_of_mayFollow {size : ℕ} (h : mayFollow first size b = true) : isTail b = true := by
  unfold mayFollow isSecond at h
  rw [isTail_iff]
  split_ifs at h <;> simp [isTail, UInt8.le_iff_toNat_le] at h <;> omega

theorem follow_append_cons {bits size missing : ℕ} {bs : Bytes} (h : isTail b = false) :
    follow first bits size missing (bs ++ b :: rest) =
      ((follow first bits size missing bs).1,
        (follow first bits size missing bs).2 ++ b :: rest) := by
  have hstop : ∀ size, mayFollow first size b = false := fun size =>
    Bool.eq_false_iff.2 fun hfollows => by
      rw [isTail_of_mayFollow hfollows] at h
      cases h
  induction missing generalizing bits size bs with
  | zero => simp only [follow_zero]
  | succ missing ih =>
    cases bs with
    | nil =>
      rw [List.nil_append, follow_stop (hstop size)]
      rfl
    | cons c bs =>
      rw [List.cons_append, follow, follow]
      split
      · exact ih
      · rfl

theorem next_append_cons {c : UInt8} {bs : Bytes} (h : isTail b = false) :
    next c (bs ++ b :: rest) = ((next c bs).1, (next c bs).2 ++ b :: rest) := by
  unfold next
  split
  · exact follow_append_cons h
  · rfl

/-- **A byte that goes on with nothing starts a new piece**: what comes before it is read as if it
stood alone. -/
theorem pieces_append_cons (bs : Bytes) (h : isTail b = false) :
    pieces (bs ++ b :: rest) = pieces bs ++ pieces (b :: rest) := by
  -- a piece may take several bytes: the induction is on the number of bytes
  induction hlen : bs.length using Nat.strongRecOn generalizing bs with
  | ind k ih =>
    cases bs with
    | nil => rw [pieces_nil, List.nil_append, List.nil_append]
    | cons c bs =>
      have hle := length_next_le c bs
      rw [List.length_cons] at hlen
      rw [List.cons_append, pieces_cons, pieces_cons, next_append_cons h,
        ih (next c bs).2.length (by omega) (next c bs).2 rfl, List.cons_append]

theorem lossy_append_cons (bs : Bytes) (h : isTail b = false) :
    lossy (bs ++ b :: rest) = lossy bs ++ lossy (b :: rest) := by
  rw [lossy, pieces_append_cons bs h, List.map_append, lossy, lossy]

end Utf8

end ReplicaTrace
