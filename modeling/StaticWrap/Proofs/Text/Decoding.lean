import StaticWrap.Text.Utf8
import StaticWrap.GoSource.Scanner
/-!
**UTF-8 bytes read back.**

`Bytes.ofText` writes a text as UTF-8 and `Bytes.toText` reads bytes as runes the way a range
over a byte string does. Every character's encoding is valid, so the reader never falls back to
the replacement character:

* `decode_one` … `decode_four`: a valid sequence of one to four bytes decodes to its code point;
* `decode_encodeChar`: the encoding of a character decodes to that character and its length;
* `runes_chars`, `toText_ofText`: a text written as bytes reads back as itself;
* `Source.ofString_chars`: the Go scanner, which reads a text through its bytes, reads exactly
  the text's characters.
-/

namespace StaticWrap.Text

theorem toList_loop (b : ByteArray) (i : Nat) (r : List UInt8) :
    ByteArray.toList.loop b i r = r.reverse ++ b.data.toList.drop i := by
  fun_induction ByteArray.toList.loop b i r with
  | case1 i r inside ih =>
    have inside' : i < b.data.toList.length := by simpa using inside
    have split : b.data.toList.drop i = b.data.toList[i] :: b.data.toList.drop (i + 1) :=
      List.drop_eq_getElem_cons inside'
    rw [ih, split]
    simp [ByteArray.get!, inside]
  | case2 i r outside =>
    rw [List.drop_eq_nil_of_le (by simpa using Nat.le_of_not_lt outside)]
    simp

theorem byteArray_toList (b : ByteArray) : b.toList = b.data.toList := by
  simp [ByteArray.toList, toList_loop]

theorem ofText_eq_data (s : String) : Bytes.ofText s = s.toByteArray.data.toList := by
  rw [Bytes.ofText, byteArray_toList, String.toUTF8_eq_toByteArray]

theorem ofText_eq_flatMap (s : String) : Bytes.ofText s = s.toList.flatMap String.utf8EncodeChar := by
  rw [ofText_eq_data, ← String.utf8Encode_toList, List.utf8Encode]
  simp

theorem decode_one {b0 : UInt8} (rest : Bytes) (ascii : b0.toNat < 0x80) :
    Bytes.decode (b0 :: rest) = (b0.toNat, 1) := by
  simp [Bytes.decode, UInt8.lt_iff_toNat_lt, ascii]

theorem decode_two {b0 b1 : UInt8} (rest : Bytes) (lead : 0xC2 ≤ b0.toNat ∧ b0.toNat < 0xE0)
    (cont : 0x80 ≤ b1.toNat ∧ b1.toNat ≤ 0xBF) :
    Bytes.decode (b0 :: b1 :: rest) = ((b0.toNat % 32) * 64 + b1.toNat % 64, 2) := by
  have notAscii : ¬ b0 < 0x80 := by simp [UInt8.lt_iff_toNat_lt]; omega
  have notStray : ¬ b0 < 0xC2 := by simp [UInt8.lt_iff_toNat_lt]; omega
  have twoWide : b0 < 0xE0 := by simp [UInt8.lt_iff_toNat_lt]; omega
  have inRange : byteIn 0x80 0xBF b1 = true := by simp [byteIn, UInt8.le_iff_toNat_le]; omega
  simp [Bytes.decode, notAscii, notStray, twoWide, inRange, contBits]

theorem decode_three {b0 b1 b2 : UInt8} (rest : Bytes) (lead : 0xE0 ≤ b0.toNat ∧ b0.toNat < 0xF0)
    (second : (if b0.toNat = 0xE0 then 0xA0 else 0x80) ≤ b1.toNat ∧
      b1.toNat ≤ (if b0.toNat = 0xED then 0x9F else 0xBF))
    (third : 0x80 ≤ b2.toNat ∧ b2.toNat ≤ 0xBF) :
    Bytes.decode (b0 :: b1 :: b2 :: rest) =
      ((b0.toNat % 16) * 4096 + b1.toNat % 64 * 64 + b2.toNat % 64, 3) := by
  have notAscii : ¬ b0 < 0x80 := by simp [UInt8.lt_iff_toNat_lt]; omega
  have notStray : ¬ b0 < 0xC2 := by simp [UInt8.lt_iff_toNat_lt]; omega
  have notTwo : ¬ b0 < 0xE0 := by simp [UInt8.lt_iff_toNat_lt]; omega
  have threeWide : b0 < 0xF0 := by simp [UInt8.lt_iff_toNat_lt]; omega
  have inRange : byteIn (if b0 = 0xE0 then 0xA0 else 0x80) (if b0 = 0xED then 0x9F else 0xBF) b1 = true ∧
      byteIn 0x80 0xBF b2 = true := by
    simp only [← UInt8.toNat_inj, UInt8.reduceToNat] at second ⊢
    by_cases first : b0.toNat = 0xE0 <;> by_cases last : b0.toNat = 0xED <;>
      simp_all [byteIn, UInt8.le_iff_toNat_le]
  simp [Bytes.decode, notAscii, notStray, notTwo, threeWide, inRange, contBits]

theorem decode_four {b0 b1 b2 b3 : UInt8} (rest : Bytes) (lead : 0xF0 ≤ b0.toNat ∧ b0.toNat < 0xF5)
    (second : (if b0.toNat = 0xF0 then 0x90 else 0x80) ≤ b1.toNat ∧
      b1.toNat ≤ (if b0.toNat = 0xF4 then 0x8F else 0xBF))
    (third : 0x80 ≤ b2.toNat ∧ b2.toNat ≤ 0xBF) (fourth : 0x80 ≤ b3.toNat ∧ b3.toNat ≤ 0xBF) :
    Bytes.decode (b0 :: b1 :: b2 :: b3 :: rest) =
      ((b0.toNat % 8) * 262144 + b1.toNat % 64 * 4096 + b2.toNat % 64 * 64 + b3.toNat % 64, 4) := by
  have notAscii : ¬ b0 < 0x80 := by simp [UInt8.lt_iff_toNat_lt]; omega
  have notStray : ¬ b0 < 0xC2 := by simp [UInt8.lt_iff_toNat_lt]; omega
  have notTwo : ¬ b0 < 0xE0 := by simp [UInt8.lt_iff_toNat_lt]; omega
  have notThree : ¬ b0 < 0xF0 := by simp [UInt8.lt_iff_toNat_lt]; omega
  have fourWide : b0 < 0xF5 := by simp [UInt8.lt_iff_toNat_lt]; omega
  have inRange : byteIn (if b0 = 0xF0 then 0x90 else 0x80) (if b0 = 0xF4 then 0x8F else 0xBF) b1 = true ∧
      byteIn 0x80 0xBF b2 = true ∧ byteIn 0x80 0xBF b3 = true := by
    simp only [← UInt8.toNat_inj, UInt8.reduceToNat] at second ⊢
    by_cases first : b0.toNat = 0xF0 <;> by_cases last : b0.toNat = 0xF4 <;>
      simp_all [byteIn, UInt8.le_iff_toNat_le]
  unfold Bytes.decode
  simp [notAscii, notStray, notTwo, notThree, fourWide, inRange, contBits]

theorem toNat_byte {n : Nat} (small : n < 256) : (UInt8.ofNat n).toNat = n := by
  rw [UInt8.toNat_ofNat']
  exact Nat.mod_eq_of_lt small

theorem decode_encodeChar (c : Char) (rest : Bytes) :
    Bytes.decode (String.utf8EncodeChar c ++ rest) = (c.toNat, (String.utf8EncodeChar c).length) := by
  have valid : c.val.toNat < 0xd800 ∨ (0xdfff < c.val.toNat ∧ c.val.toNat < 0x110000) := c.valid
  show _ = (c.val.toNat, _)
  simp only [String.utf8EncodeChar]
  split
  · rename_i ascii
    have b0 := toNat_byte (n := c.val.toNat) (by omega)
    rw [List.singleton_append, decode_one rest (by omega), b0]
    rfl
  · split
    · rename_i wide two
      have b0 := toNat_byte (n := c.val.toNat / 64 % 32 + 192) (by omega)
      have b1 := toNat_byte (n := c.val.toNat % 64 + 128) (by omega)
      rw [List.cons_append, List.cons_append, List.nil_append,
        decode_two rest (by rw [b0]; omega) (by rw [b1]; omega), b0, b1]
      simp only [List.length_cons, List.length_nil, Prod.mk.injEq, and_true]
      omega
    · split
      · rename_i wide wider three
        have b0 := toNat_byte (n := c.val.toNat / 4096 % 16 + 224) (by omega)
        have b1 := toNat_byte (n := c.val.toNat / 64 % 64 + 128) (by omega)
        have b2 := toNat_byte (n := c.val.toNat % 64 + 128) (by omega)
        -- a lead byte `E0` needs a second byte of at least `A0` (no overlong form), and `ED` one
        -- of at most `9F` (no surrogate)
        have second : (if (c.val.toNat / 4096 % 16 + 224) = 0xE0 then 0xA0 else 0x80) ≤
            c.val.toNat / 64 % 64 + 128 ∧ c.val.toNat / 64 % 64 + 128 ≤
              (if (c.val.toNat / 4096 % 16 + 224) = 0xED then 0x9F else 0xBF) := by
          constructor <;> split <;> omega
        rw [List.cons_append, List.cons_append, List.cons_append, List.nil_append,
          decode_three rest (by omega) (by rw [b0, b1]; exact second) (by omega), b0, b1, b2]
        simp only [List.length_cons, List.length_nil, Prod.mk.injEq, and_true]
        omega
      · rename_i wide wider widest
        have b0 := toNat_byte (n := c.val.toNat / 262144 % 8 + 240) (by omega)
        have b1 := toNat_byte (n := c.val.toNat / 4096 % 64 + 128) (by omega)
        have b2 := toNat_byte (n := c.val.toNat / 64 % 64 + 128) (by omega)
        have b3 := toNat_byte (n := c.val.toNat % 64 + 128) (by omega)
        -- a lead byte `F0` needs a second byte of at least `90` (no overlong form), and `F4` one
        -- of at most `8F` (nothing above `10FFFF`)
        have second : (if (c.val.toNat / 262144 % 8 + 240) = 0xF0 then 0x90 else 0x80) ≤
            c.val.toNat / 4096 % 64 + 128 ∧ c.val.toNat / 4096 % 64 + 128 ≤
              (if (c.val.toNat / 262144 % 8 + 240) = 0xF4 then 0x8F else 0xBF) := by
          constructor <;> split <;> omega
        rw [List.cons_append, List.cons_append, List.cons_append, List.cons_append,
          List.nil_append, decode_four rest (by omega) (by rw [b0, b1]; exact second) (by omega)
            (by omega), b0, b1, b2, b3]
        simp only [List.length_cons, List.length_nil, Prod.mk.injEq, and_true]
        omega

/-- Reading from the encoding of a character takes that character and its bytes. -/
theorem runesFrom_encodeChar (c : Char) (rest : Bytes) (fuel off : Nat) :
    Bytes.runesFrom (fuel + 1) off (String.utf8EncodeChar c ++ rest) =
      (off, c.toNat, (String.utf8EncodeChar c).length) ::
        Bytes.runesFrom fuel (off + (String.utf8EncodeChar c).length) rest := by
  obtain ⟨b, bs, encoded⟩ := List.exists_cons_of_ne_nil (String.utf8EncodeChar_ne_nil (c := c))
  have decoded := decode_encodeChar c rest
  rw [encoded] at decoded ⊢
  rw [List.cons_append, Bytes.runesFrom, ← List.cons_append, decoded]
  simp

/-- Reading the encodings of characters, with a step for each, gives the characters. -/
theorem runesFrom_flatMap (l : List Char) (fuel off : Nat) (enough : l.length ≤ fuel) :
    (Bytes.runesFrom fuel off (l.flatMap String.utf8EncodeChar)).map (·.2.1) = l.map Char.toNat := by
  induction l generalizing fuel off with
  | nil => cases fuel <;> simp [Bytes.runesFrom]
  | cons c l ih =>
    obtain ⟨fuel, rfl⟩ : ∃ f, fuel = f + 1 := ⟨fuel - 1, by simp at enough; omega⟩
    rw [List.flatMap_cons, runesFrom_encodeChar, List.map_cons, ih _ _ (by simpa using enough)]
    rfl

/-- Every character takes at least one byte. -/
theorem length_le_length_flatMap (l : List Char) :
    l.length ≤ (l.flatMap String.utf8EncodeChar).length := by
  induction l with
  | nil => simp
  | cons c l ih =>
    have wide := Char.utf8Size_pos c
    simp only [List.flatMap_cons, List.length_append, String.length_utf8EncodeChar,
      List.length_cons]
    omega

/-- The code points read from the bytes of a text are the text's characters. -/
theorem runes_chars (s : String) :
    (Bytes.runes (Bytes.ofText s)).map (fun r => Char.ofNat r.2.1) = s.toList := by
  have read := runesFrom_flatMap s.toList _ 0 (length_le_length_flatMap s.toList)
  rw [← ofText_eq_flatMap] at read
  have codes : (Bytes.runes (Bytes.ofText s)).map (fun r => Char.ofNat r.2.1) =
      ((Bytes.runes (Bytes.ofText s)).map (·.2.1)).map Char.ofNat := by
    rw [List.map_map]
    rfl
  have back : Char.ofNat ∘ Char.toNat = id := funext Char.ofNat_toNat
  rw [codes, Bytes.runes, read, List.map_map, back, List.map_id]

/-- The bytes of a text read back as the text. -/
theorem toText_ofText (s : String) : Bytes.toText (Bytes.ofText s) = s := by
  have chars : Bytes.toText (Bytes.ofText s) =
      String.ofList ((Bytes.runes (Bytes.ofText s)).map fun r => Char.ofNat r.2.1) := rfl
  rw [chars, runes_chars, String.ofList_toList]

/-- The bytes of two texts one after the other. -/
@[simp] theorem ofText_append (s t : String) : Bytes.ofText (s ++ t) = Bytes.ofText s ++ Bytes.ofText t := by
  simp [ofText_eq_flatMap, String.toList_append]

end StaticWrap.Text

namespace StaticWrap.GoSource

open StaticWrap.Text

/-- The scanner's source of a text holds the text's characters, in order. -/
theorem Source.ofString_chars (s : String) : (Source.ofString s).chars.map (·.1) = s.toList := by
  simp only [Source.ofString, List.map_map, ← ofText_eq_data]
  exact runes_chars s

end StaticWrap.GoSource
