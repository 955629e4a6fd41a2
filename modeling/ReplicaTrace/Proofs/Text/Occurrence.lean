import Mathlib.Data.List.Basic
import Mathlib.Order.Bounds.Defs
import ReplicaTrace.Proofs.Text.Encoding

/-!
# Texts that occur in bytes

The pieces that are characters are the encodings of these characters, so that bytes can be read in
parts: a text that occurs in the reading with replacement characters occurs, encoded, in the bytes.
The other way round, an encoded text starts with a byte that goes on with nothing, and therefore is
read as itself wherever it stands, even next to bytes that are no text.

* `encodeChar_of_next` : a piece that is a character is its encoding.
* `decode?_eq_some_iff` : the bytes that are a text.
* `isGreatest_validLength` : the valid length is that of the longest beginning that is a text.
* `infix_lossy_iff` : where a text occurs in bytes.
-/

namespace ReplicaTrace

namespace Utf8

/-- The bytes encode a text. -/
def IsText (bs : Bytes) : Prop :=
  ∃ cs, encode cs = bs

variable {b first : UInt8} {rest tail bs : Bytes} {cs : List Char} {c : Char}

/-! ### Encodings of one character -/

theorem toNat_ofNat_of_valid {n : ℕ} (h : n < 0xD800 ∨ 0xDFFF < n ∧ n < 0x110000) :
    (Char.ofNat n).val.toNat = n := by
  have hvalid : n.isValidChar := h
  rw [Char.ofNat, dif_pos hvalid]
  rfl

theorem lead_eq_some {bits missing : ℕ} (h : lead b = some (bits, missing)) :
    b.toNat ≤ 0x7F ∧ bits = b.toNat ∧ missing = 0 ∨
      (0xC2 ≤ b.toNat ∧ b.toNat ≤ 0xDF) ∧ bits = b.toNat - 0xC0 ∧ missing = 1 ∨
      (0xE0 ≤ b.toNat ∧ b.toNat ≤ 0xEF) ∧ bits = b.toNat - 0xE0 ∧ missing = 2 ∨
      (0xF0 ≤ b.toNat ∧ b.toNat ≤ 0xF4) ∧ bits = b.toNat - 0xF0 ∧ missing = 3 := by
  unfold lead at h
  split_ifs at h with h₁ h₂ h₃ h₄ <;>
    simp only [Bool.and_eq_true, decide_eq_true_eq, UInt8.le_iff_toNat_le] at * <;>
    obtain ⟨rfl, rfl⟩ := Prod.mk.inj (Option.some.inj h)
  · exact .inl ⟨h₁, rfl, rfl⟩
  · exact .inr (.inl ⟨h₂, rfl, rfl⟩)
  · exact .inr (.inr (.inl ⟨h₃, rfl, rfl⟩))
  · exact .inr (.inr (.inr ⟨h₄, rfl, rfl⟩))

theorem tail_bounds {size : ℕ} {x : UInt8} (h : mayFollow first size x = true) :
    0x80 ≤ x.toNat ∧ x.toNat ≤ 0xBF :=
  isTail_iff.1 (isTail_of_mayFollow h)

/-- The narrower bounds on the second byte. -/
theorem second_bounds {x : UInt8} (h : mayFollow first 1 x = true) :
    (first.toNat = 0xE0 → 0xA0 ≤ x.toNat) ∧ (first.toNat = 0xED → x.toNat ≤ 0x9F) ∧
      (first.toNat = 0xF0 → 0x90 ≤ x.toNat) ∧ (first.toNat = 0xF4 → x.toNat ≤ 0x8F) := by
  rw [mayFollow, if_pos rfl] at h
  unfold isSecond at h
  simp only [beq_iff_eq, ← UInt8.toNat_inj] at h
  split_ifs at h <;> simp [isTail, UInt8.le_iff_toNat_le] at * <;> omega

theorem encodeChar_one (hb : b.toNat ≤ 0x7F) :
    String.utf8EncodeChar (Char.ofNat b.toNat) = [b] := by
  unfold String.utf8EncodeChar
  rw [toNat_ofNat_of_valid (by omega)]
  dsimp only
  rw [if_pos (by omega), UInt8.ofNat_toNat]

theorem encodeChar_two {x : UInt8} (hb : 0xC2 ≤ b.toNat ∧ b.toNat ≤ 0xDF)
    (hx : mayFollow b 1 x = true) :
    String.utf8EncodeChar (Char.ofNat ((b.toNat - 0xC0) * 64 + tailBits x)) = [b, x] := by
  have hxb := tail_bounds hx
  unfold String.utf8EncodeChar tailBits
  rw [toNat_ofNat_of_valid (by omega)]
  dsimp only
  generalize hn : (b.toNat - 0xC0) * 64 + (x.toNat - 0x80) = n
  rw [if_neg (by omega), if_pos (by omega), show n / 64 % 32 + 192 = b.toNat by omega,
    show n % 64 + 128 = x.toNat by omega, UInt8.ofNat_toNat, UInt8.ofNat_toNat]

theorem encodeChar_three {x y : UInt8} (hb : 0xE0 ≤ b.toNat ∧ b.toNat ≤ 0xEF)
    (hx : mayFollow b 1 x = true) (hy : mayFollow b 2 y = true) :
    String.utf8EncodeChar
      (Char.ofNat (((b.toNat - 0xE0) * 64 + tailBits x) * 64 + tailBits y)) = [b, x, y] := by
  have hxb := tail_bounds hx
  have hyb := tail_bounds hy
  obtain ⟨hE0, hED, -, -⟩ := second_bounds hx
  unfold String.utf8EncodeChar tailBits
  rw [toNat_ofNat_of_valid (by omega)]
  dsimp only
  generalize hn : ((b.toNat - 0xE0) * 64 + (x.toNat - 0x80)) * 64 + (y.toNat - 0x80) = n
  rw [if_neg (by omega), if_neg (by omega), if_pos (by omega),
    show n / 4096 % 16 + 224 = b.toNat by omega, show n / 64 % 64 + 128 = x.toNat by omega,
    show n % 64 + 128 = y.toNat by omega, UInt8.ofNat_toNat, UInt8.ofNat_toNat, UInt8.ofNat_toNat]

theorem encodeChar_four {x y z : UInt8} (hb : 0xF0 ≤ b.toNat ∧ b.toNat ≤ 0xF4)
    (hx : mayFollow b 1 x = true) (hy : mayFollow b 2 y = true) (hz : mayFollow b 3 z = true) :
    String.utf8EncodeChar (Char.ofNat
      ((((b.toNat - 0xF0) * 64 + tailBits x) * 64 + tailBits y) * 64 + tailBits z)) =
        [b, x, y, z] := by
  have hxb := tail_bounds hx
  have hyb := tail_bounds hy
  have hzb := tail_bounds hz
  obtain ⟨-, -, hF0, hF4⟩ := second_bounds hx
  unfold String.utf8EncodeChar tailBits
  rw [toNat_ofNat_of_valid (by omega)]
  dsimp only
  generalize hn : (((b.toNat - 0xF0) * 64 + (x.toNat - 0x80)) * 64 + (y.toNat - 0x80)) * 64 +
    (z.toNat - 0x80) = n
  rw [if_neg (by omega), if_neg (by omega), if_neg (by omega),
    show n / 262144 % 8 + 240 = b.toNat by omega, show n / 4096 % 64 + 128 = x.toNat by omega,
    show n / 64 % 64 + 128 = y.toNat by omega, show n % 64 + 128 = z.toNat by omega,
    UInt8.ofNat_toNat, UInt8.ofNat_toNat, UInt8.ofNat_toNat, UInt8.ofNat_toNat]

/-! ### Pieces -/

/-- The bytes that were taken to complete a character. -/
theorem exists_of_follow_eq_char {bits size missing n : ℕ}
    (h : follow first bits size missing rest = (.char c n, tail)) :
    ∃ taken, rest = taken ++ tail ∧ taken.length = missing ∧ n = size + missing ∧
      c = Char.ofNat (taken.foldl (fun v x => v * 64 + tailBits x) bits) ∧
      ∀ i x, taken[i]? = some x → mayFollow first (size + i) x = true := by
  induction missing generalizing bits size rest with
  | zero =>
    rw [follow_zero] at h
    obtain ⟨hpiece, rfl⟩ := Prod.mk.inj h
    obtain ⟨rfl, rfl⟩ := Piece.char.inj hpiece
    exact ⟨[], rfl, rfl, rfl, rfl, by simp⟩
  | succ missing ih =>
    cases rest with
    | nil => simp [follow] at h
    | cons x rest =>
      by_cases hx : mayFollow first size x = true
      · rw [follow_succ hx] at h
        obtain ⟨taken, rfl, rfl, rfl, rfl, hfollows⟩ := ih h
        refine ⟨x :: taken, rfl, rfl, by omega, by rw [List.foldl_cons], ?_⟩
        intro i y hy
        cases i with
        | zero =>
          obtain rfl : x = y := by simpa using hy
          exact hx
        | succ i =>
          rw [show size + (i + 1) = size + 1 + i by omega]
          exact hfollows i y (by simpa using hy)
      · rw [follow_stop (Bool.eq_false_iff.2 hx)] at h
        cases h

/-- **A piece that is a character is its encoding.** -/
theorem encodeChar_of_next {size : ℕ} (h : next b rest = (.char c size, tail)) :
    b :: rest = String.utf8EncodeChar c ++ tail ∧ Piece.char c size = .ofChar c := by
  -- it is enough to know the bytes: their number is the size
  suffices hbytes : ∃ bytes, b :: rest = bytes ++ tail ∧ size = bytes.length ∧
      String.utf8EncodeChar c = bytes by
    obtain ⟨_, happend, hsize, rfl⟩ := hbytes
    exact ⟨happend, by rw [hsize, Piece.ofChar]⟩
  unfold next at h
  split at h
  case h_2 => cases h
  case h_1 bits missing hlead =>
    obtain ⟨taken, rfl, rfl, rfl, rfl, hfollows⟩ := exists_of_follow_eq_char h
    refine ⟨b :: taken, rfl, by rw [List.length_cons, Nat.add_comm], ?_⟩
    rcases lead_eq_some hlead with ⟨hb, hbits, hlen⟩ | ⟨hb, hbits, hlen⟩ | ⟨hb, hbits, hlen⟩ |
      ⟨hb, hbits, hlen⟩ <;> rw [hbits]
    · obtain rfl := List.length_eq_zero_iff.1 hlen
      exact encodeChar_one hb
    · obtain ⟨x, rfl⟩ := List.length_eq_one_iff.1 hlen
      exact encodeChar_two hb (hfollows 0 x rfl)
    · obtain ⟨x, y, rfl⟩ := List.length_eq_two.1 hlen
      exact encodeChar_three hb (hfollows 0 x rfl) (hfollows 1 y rfl)
    · obtain ⟨x, y, z, rfl⟩ := List.length_eq_three.1 hlen
      exact encodeChar_four hb (hfollows 0 x rfl) (hfollows 1 y rfl) (hfollows 2 z rfl)

theorem follow_suffix (first : UInt8) (bits size missing : ℕ) (rest : Bytes) :
    (follow first bits size missing rest).2 <:+ rest := by
  induction missing generalizing bits size rest with
  | zero => simp [follow]
  | succ missing ih =>
    cases rest with
    | nil => simp [follow]
    | cons x rest =>
      rw [follow]
      split
      · exact (ih _ _ _).trans (List.suffix_cons x rest)
      · exact List.suffix_refl _

theorem next_suffix (b : UInt8) (rest : Bytes) : (next b rest).2 <:+ b :: rest := by
  unfold next
  split
  · exact (follow_suffix _ _ _ _ _).trans (List.suffix_cons b rest)
  · exact List.suffix_cons b rest

/-- The pieces after the first ones are those of the bytes after some. -/
theorem exists_suffix_of_pieces {ps qs : List Piece} (h : pieces bs = ps ++ qs) :
    ∃ back, back <:+ bs ∧ pieces back = qs := by
  induction ps generalizing bs with
  | nil => exact ⟨bs, List.suffix_refl bs, h⟩
  | cons p ps ih =>
    cases bs with
    | nil => simp [pieces_nil] at h
    | cons b rest =>
      rw [pieces_cons, List.cons_append] at h
      obtain ⟨back, hback, hpieces⟩ := ih (List.cons.inj h).2
      exact ⟨back, hback.trans (next_suffix b rest), hpieces⟩

/-- Pieces that are characters are the encoded text. -/
theorem exists_of_pieces_eq_append {ps qs : List Piece} (h : pieces bs = ps ++ qs)
    (hchars : ps.map Piece.char? = cs.map some) :
    ∃ back, bs = encode cs ++ back ∧ pieces back = qs := by
  induction ps generalizing bs cs with
  | nil =>
    obtain rfl : cs = [] := by simpa using hchars.symm
    exact ⟨bs, rfl, h⟩
  | cons p ps ih =>
    cases cs with
    | nil => simp at hchars
    | cons c cs =>
      rw [List.map_cons, List.map_cons] at hchars
      obtain ⟨hchar, hrest⟩ := List.cons.inj hchars
      cases bs with
      | nil => simp [pieces_nil] at h
      | cons b rest =>
        rw [pieces_cons, List.cons_append] at h
        obtain ⟨hfirst, hothers⟩ := List.cons.inj h
        obtain ⟨back, hback, hpieces⟩ := ih hothers hrest
        cases p with
        | illFormed size => cases hchar
        | char d size =>
          obtain rfl : d = c := Option.some.inj hchar
          have hnext : next b rest = (.char d size, (next b rest).2) := Prod.ext hfirst rfl
          refine ⟨back, ?_, hpieces⟩
          rw [(encodeChar_of_next hnext).1, hback, encode_cons, List.append_assoc]

/-! ### Texts -/

/-- **The bytes that are a text** are those that encode it. -/
theorem decode?_eq_some_iff : decode? bs = some cs ↔ encode cs = bs := by
  constructor
  · intro h
    rw [decode?, mapM_char?_eq_some_iff] at h
    obtain ⟨back, rfl, hback⟩ :=
      exists_of_pieces_eq_append (List.append_nil (pieces bs)).symm h
    cases back with
    | nil => rw [List.append_nil]
    | cons b rest => simp [pieces_cons] at hback
  · rintro rfl
    exact decode?_encode cs

theorem isText_iff : IsText bs ↔ ∃ cs, decode? bs = some cs :=
  exists_congr fun _ => decode?_eq_some_iff.symm

instance (bs : Bytes) : Decidable (IsText bs) :=
  decidable_of_iff ((decode? bs).isSome = true) (by rw [isText_iff, Option.isSome_iff_exists])

/-! ### The longest beginning that is a text -/

theorem go_map_ofChar_append (cs : List Char) (ps : List Piece) :
    validLength.go (cs.map .ofChar ++ ps) = (encode cs).length + validLength.go ps := by
  induction cs with
  | nil => simp [encode]
  | cons c cs ih =>
    rw [List.map_cons, List.cons_append, Piece.ofChar, validLength.go, ih, encode_cons,
      List.length_append, Nat.add_assoc]

theorem validLength_encode_append (cs : List Char) (rest : Bytes) :
    validLength (encode cs ++ rest) = (encode cs).length + validLength rest := by
  rw [validLength, pieces_encode_append, go_map_ofChar_append, validLength]

/-- The bytes that count are a text. -/
theorem exists_encode_append (bs : Bytes) :
    ∃ cs back, bs = encode cs ++ back ∧ validLength bs = (encode cs).length := by
  -- a piece may take several bytes: the induction is on the number of bytes
  induction hlen : bs.length using Nat.strongRecOn generalizing bs with
  | ind k ih =>
    cases bs with
    | nil => exact ⟨[], [], rfl, by simp [validLength, pieces_nil, validLength.go, encode]⟩
    | cons b rest =>
      cases hnext : (next b rest).1 with
      | illFormed size =>
        exact ⟨[], b :: rest, rfl, by
          rw [validLength, pieces_cons, hnext, validLength.go]
          · rfl
          · simp⟩
      | char c size =>
        have hpiece : next b rest = (.char c size, (next b rest).2) := Prod.ext hnext rfl
        obtain ⟨hbytes, -⟩ := encodeChar_of_next hpiece
        have hle := length_next_le b rest
        rw [List.length_cons] at hlen
        obtain ⟨cs, back, hback, hvalid⟩ :=
          ih (next b rest).2.length (by omega) (next b rest).2 rfl
        have hsplit : b :: rest = encode (c :: cs) ++ back := by
          rw [hbytes, encode_cons, List.append_assoc, ← hback]
        refine ⟨c :: cs, back, hsplit, ?_⟩
        have hcount := validLength_encode_append [c] (next b rest).2
        rw [encode_cons, encode, List.flatMap_nil, List.append_nil, ← hbytes, hvalid] at hcount
        rw [hcount, encode_cons, List.length_append]

/-- **The valid length** is the length of the longest beginning that is a text. -/
theorem isGreatest_validLength (bs : Bytes) :
    IsGreatest {n | n ≤ bs.length ∧ IsText (bs.take n)} (validLength bs) := by
  constructor
  · obtain ⟨cs, back, rfl, hvalid⟩ := exists_encode_append bs
    rw [hvalid]
    exact ⟨by simp, cs, List.take_left.symm⟩
  · rintro n ⟨hn, cs, hcs⟩
    have hcount := validLength_encode_append cs (bs.drop n)
    rw [hcs, List.take_append_drop, List.length_take] at hcount
    omega

/-! ### Where a text occurs -/

/-- An encoded character starts with a byte that goes on with nothing. -/
theorem exists_encodeChar_eq_cons (c : Char) :
    ∃ b bs, String.utf8EncodeChar c = b :: bs ∧ isTail b = false := by
  have hvalid : c.val.toNat < 0x110000 := by have := c.valid; omega
  unfold String.utf8EncodeChar
  dsimp only
  generalize c.val.toNat = n at hvalid
  split_ifs <;> refine ⟨_, _, rfl, Bool.eq_false_iff.2 fun h => ?_⟩ <;>
    rw [isTail_iff, toNat_ofNat_of_lt (by omega)] at h <;> omega

/-- Encoded text is read as its characters, whatever stands before and after it. -/
theorem pieces_append_encode_append (front : Bytes) (cs : List Char) (hne : cs ≠ [])
    (back : Bytes) :
    pieces (front ++ (encode cs ++ back)) = pieces front ++ (cs.map .ofChar ++ pieces back) := by
  obtain ⟨c, cs, rfl⟩ := List.exists_cons_of_ne_nil hne
  obtain ⟨b, bs, hbytes, htail⟩ := exists_encodeChar_eq_cons c
  have hsplit : encode (c :: cs) ++ back = b :: (bs ++ (encode cs ++ back)) := by
    rw [encode_cons, hbytes, List.cons_append, List.cons_append, List.append_assoc]
  rw [← pieces_encode_append, hsplit, pieces_append_cons front htail]

theorem map_toChar_ofChar (cs : List Char) :
    (cs.map Piece.ofChar).map Piece.toChar = cs := by
  rw [List.map_map]
  exact List.map_id cs

/-- What is no replacement character was read from a character. -/
theorem map_char?_of_map_toChar {ps : List Piece} (h : ps.map Piece.toChar = cs)
    (hcs : '\uFFFD' ∉ cs) : ps.map Piece.char? = cs.map some := by
  subst h
  rw [List.map_map]
  refine List.map_congr_left fun p hp => ?_
  cases p with
  | char c size => rfl
  | illFormed size => exact absurd (List.mem_map_of_mem (f := Piece.toChar) hp) hcs

/-- **A text occurs** in the reading with replacement characters exactly where it occurs, encoded, in
the bytes, provided that the replacement character is not in it. -/
theorem infix_lossy_iff (hcs : '\uFFFD' ∉ cs) : cs <:+: lossy bs ↔ encode cs <:+: bs := by
  constructor
  · rintro ⟨before, after, hlossy⟩
    rw [List.append_assoc] at hlossy
    obtain ⟨ps, others, hpieces, -, hothers⟩ := List.map_eq_append_iff.1 hlossy.symm
    obtain ⟨qs, rs, rfl, hqs, -⟩ := List.map_eq_append_iff.1 hothers
    obtain ⟨back, hback, hpieces⟩ := exists_suffix_of_pieces hpieces
    obtain ⟨rest, rfl, -⟩ :=
      exists_of_pieces_eq_append hpieces (map_char?_of_map_toChar hqs hcs)
    exact (List.prefix_append _ _).isInfix.trans hback.isInfix
  · rintro ⟨front, back, rfl⟩
    by_cases hne : cs = []
    · rw [hne]
      exact List.nil_infix
    · rw [lossy, List.append_assoc, pieces_append_encode_append front cs hne back, List.map_append,
        List.map_append, map_toChar_ofChar]
      exact List.infix_append' _ _ _

end Utf8

end ReplicaTrace
