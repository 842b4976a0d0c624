/-!
# UTF-8

`encodeUtf8` gives the bytes of a text, as numbers below 256. `decodeUtf8` reads any bytes: where
they are not well formed, each longest piece that could begin a character is replaced by the
replacement character. Main statement: the bytes of a text read back as that text
(`decodeUtf8_encodeUtf8`).
-/

namespace QueryTelemetry.Text

/-- The bytes of a character. -/
def utf8Bytes (c : Char) : List Nat :=
  let n := c.toNat
  if n < 128 then [n]
  else if n < 2048 then [192 + n / 64, 128 + n % 64]
  else if n < 65536 then [224 + n / 4096, 128 + n / 64 % 64, 128 + n % 64]
  else [240 + n / 262144, 128 + n / 4096 % 64, 128 + n / 64 % 64, 128 + n % 64]

/-- The bytes of a text. -/
def encodeUtf8 (cs : List Char) : List Nat := cs.flatMap utf8Bytes

/-- What follows a leading byte: the number of further bytes, the bounds of the first of them, and
the bits that the leading byte gives. -/
structure Lead where
  more : Nat
  low : Nat
  high : Nat
  bits : Nat

/-- The meaning of a byte that leads a character of several bytes. -/
def lead? (b : Nat) : Option Lead :=
  if 194 ≤ b ∧ b < 224 then some ⟨1, 128, 191, b - 192⟩
  else if b = 224 then some ⟨2, 160, 191, 0⟩
  else if b = 237 then some ⟨2, 128, 159, 13⟩
  else if 225 ≤ b ∧ b < 240 then some ⟨2, 128, 191, b - 224⟩
  else if b = 240 then some ⟨3, 144, 191, 0⟩
  else if 241 ≤ b ∧ b < 244 then some ⟨3, 128, 191, b - 240⟩
  else if b = 244 then some ⟨3, 128, 143, 4⟩
  else none

/-- The code point that the further bytes complete, and the bytes behind the ones that fit. -/
def takeFurther (low high : Nat) : Nat → Nat → List Nat → Option Nat × List Nat
  | 0, bits, bs => (some bits, bs)
  | _ + 1, _, [] => (none, [])
  | more + 1, bits, b :: bs =>
    if low ≤ b ∧ b ≤ high then takeFurther 128 191 more (64 * bits + b % 64) bs
    else (none, b :: bs)

theorem length_takeFurther (low high more bits : Nat) (bs : List Nat) :
    (takeFurther low high more bits bs).2.length ≤ bs.length := by
  induction more generalizing low high bits bs with
  | zero => simp [takeFurther]
  | succ more ih =>
    cases bs with
    | nil => simp [takeFurther]
    | cons b bs =>
      simp only [takeFurther]
      split
      · exact Nat.le_succ_of_le (ih 128 191 (64 * bits + b % 64) bs)
      · exact Nat.le_refl _

/-- The character that stands for bytes that are not well formed. -/
def replacement : Char := Char.ofNat 65533

/-- The text of some bytes. -/
def decodeUtf8 : List Nat → List Char
  | [] => []
  | b :: bs =>
    if b < 128 then Char.ofNat b :: decodeUtf8 bs
    else
      match lead? b with
      | none => replacement :: decodeUtf8 bs
      | some l =>
        have : (takeFurther l.low l.high l.more l.bits bs).2.length < bs.length + 1 :=
          Nat.lt_succ_of_le (length_takeFurther ..)
        let r := takeFurther l.low l.high l.more l.bits bs
        (match r.1 with
          | some n => Char.ofNat n
          | none => replacement) :: decodeUtf8 r.2
termination_by bs => bs.length

theorem decodeUtf8_nil : decodeUtf8 [] = [] := by rw [decodeUtf8]

theorem decodeUtf8_ascii {b : Nat} (h : b < 128) (bs : List Nat) :
    decodeUtf8 (b :: bs) = Char.ofNat b :: decodeUtf8 bs := by
  rw [decodeUtf8, if_pos h]

/-- A leading byte and the bytes after it that complete a character. -/
theorem decodeUtf8_lead {b n more low high bits : Nat} {bs rest : List Nat} (hb : 128 ≤ b)
    (hl : lead? b = some ⟨more, low, high, bits⟩)
    (hr : takeFurther low high more bits bs = (some n, rest)) :
    decodeUtf8 (b :: bs) = Char.ofNat n :: decodeUtf8 rest := by
  rw [decodeUtf8, if_neg (Nat.not_lt.2 hb)]
  simp only [hl, hr]

theorem takeFurther_cons {low high more bits b : Nat} {bs : List Nat} (h : low ≤ b ∧ b ≤ high) :
    takeFurther low high (more + 1) bits (b :: bs) =
      takeFurther 128 191 more (64 * bits + b % 64) bs := by
  rw [takeFurther, if_pos h]

theorem lead?_two {n : Nat} (low : 128 ≤ n) (high : n < 2048) :
    lead? (192 + n / 64) = some ⟨1, 128, 191, n / 64⟩ := by
  rw [lead?, if_pos (by omega), Nat.add_sub_cancel_left]

/-- The leading byte of a character of three bytes admits the second one. -/
theorem lead?_three {n : Nat} (low : 2048 ≤ n) (high : n < 65536)
    (valid : n < 55296 ∨ 57343 < n) :
    ∃ least most, lead? (224 + n / 4096) = some ⟨2, least, most, n / 4096⟩ ∧
      least ≤ 128 + n / 64 % 64 ∧ 128 + n / 64 % 64 ≤ most := by
  simp only [lead?]
  repeat' split
  all_goals simp only [Option.some.injEq, Lead.mk.injEq, true_and, reduceCtorEq]
  · omega
  · exact ⟨160, 191, ⟨rfl, rfl, by omega⟩, by omega⟩
  · exact ⟨128, 159, ⟨rfl, rfl, by omega⟩, by omega⟩
  · exact ⟨128, 191, ⟨rfl, rfl, by omega⟩, by omega⟩
  all_goals omega

/-- The leading byte of a character of four bytes admits the second one. -/
theorem lead?_four {n : Nat} (low : 65536 ≤ n) (high : n < 1114112) :
    ∃ least most, lead? (240 + n / 262144) = some ⟨3, least, most, n / 262144⟩ ∧
      least ≤ 128 + n / 4096 % 64 ∧ 128 + n / 4096 % 64 ≤ most := by
  simp only [lead?]
  repeat' split
  all_goals simp only [Option.some.injEq, Lead.mk.injEq, true_and, reduceCtorEq]
  all_goals try omega
  · exact ⟨144, 191, ⟨rfl, rfl, by omega⟩, by omega⟩
  · exact ⟨128, 191, ⟨rfl, rfl, by omega⟩, by omega⟩
  · exact ⟨128, 143, ⟨rfl, rfl, by omega⟩, by omega⟩

/-- The bytes of a character read back as that character. -/
theorem decodeUtf8_utf8Bytes (c : Char) (bs : List Nat) :
    decodeUtf8 (utf8Bytes c ++ bs) = c :: decodeUtf8 bs := by
  have valid : c.toNat < 55296 ∨ 57343 < c.toNat ∧ c.toNat < 1114112 := c.valid
  have back : Char.ofNat c.toNat = c := Char.ofNat_toNat c
  simp only [utf8Bytes]
  generalize c.toNat = n at valid back
  subst back
  split
  · next h => exact decodeUtf8_ascii h bs
  · split
    · rw [List.cons_append, List.singleton_append]
      refine decodeUtf8_lead (by omega) (lead?_two (by omega) (by omega)) ?_
      rw [takeFurther_cons (by omega), takeFurther]
      congr 2
      omega
    · split
      · obtain ⟨least, most, hl, hb⟩ := lead?_three (n := n) (by omega) (by omega) (by omega)
        simp only [List.cons_append, List.nil_append]
        refine decodeUtf8_lead (by omega) hl ?_
        rw [takeFurther_cons hb, takeFurther_cons (by omega), takeFurther]
        congr 2
        omega
      · obtain ⟨least, most, hl, hb⟩ := lead?_four (n := n) (by omega) (by omega)
        simp only [List.cons_append, List.nil_append]
        refine decodeUtf8_lead (by omega) hl ?_
        rw [takeFurther_cons hb, takeFurther_cons (by omega), takeFurther_cons (by omega),
          takeFurther]
        congr 2
        omega

/-- The bytes of a text read back as that text. -/
theorem decodeUtf8_encodeUtf8 (cs : List Char) : decodeUtf8 (encodeUtf8 cs) = cs := by
  induction cs with
  | nil => exact decodeUtf8_nil
  | cons c cs ih =>
    rw [encodeUtf8, List.flatMap_cons, decodeUtf8_utf8Bytes]
    exact congrArg _ ih

end QueryTelemetry.Text
