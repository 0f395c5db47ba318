import DefectGraph.Text.Utf8

/-!
# Encoding and decoding

A text is read back from its bytes, and bytes of one character each are what the characters of ASCII are
written as, and no others.

## Main Statements

* `encode_eq_flatMap` - the bytes of a text are those of its characters, one after the other.
* `piece_encodeChar` - the bytes of a character are read as that character.
* `decode?_encode` - a text is read back from its bytes.
* `decodeLossy_of_decode?` - where no piece is ill formed, none is replaced.
* `encodeChar_of_ascii`, `le_of_mem_encodeChar` - the bytes of characters inside and outside ASCII.

## Design Notes

Characters are encoded in one to four bytes, and the decoder looks at the first byte to tell how many. The
four lengths are settled once, in `piece_encodeChar`; from there on a text is a list of characters and
decoding goes over it by induction.
-/

namespace DefectGraph.Text.Utf8

/-! ### Bytes of texts -/

/-- The bytes of an array come in order. -/
theorem toList_loop (bytes : ByteArray) (rest : List UInt8) (start : Nat) (before : List UInt8)
    (left : bytes.data.toList.drop start = rest) :
    ByteArray.toList.loop bytes start before = before.reverse ++ rest := by
  induction rest generalizing start before with
  | nil =>
    have outside : ¬ start < bytes.size := Nat.not_lt.mpr (List.drop_eq_nil_iff.mp left)
    rw [ByteArray.toList.loop, if_neg outside, List.append_nil]
  | cons b rest ih =>
    have inside : start < bytes.data.toList.length := by
      apply Nat.lt_of_not_le
      intro outside
      rw [List.drop_eq_nil_of_le outside] at left
      cases left
    rw [List.drop_eq_getElem_cons inside] at left
    obtain ⟨here, later⟩ := List.cons.inj left
    have byte : bytes.get! start = b := by
      rw [← here]
      exact getElem!_pos bytes.data start inside
    have bound : start < bytes.size := inside
    rw [ByteArray.toList.loop, if_pos bound, byte, ih (start + 1) (b :: before) later]
    simp

/-- The bytes of a text are those of its characters, one after the other. -/
theorem encode_eq_flatMap (s : String) : encode s = s.toList.flatMap String.utf8EncodeChar := by
  have bytes : s.toUTF8 = (s.toList.flatMap String.utf8EncodeChar).toByteArray :=
    (String.utf8Encode_toList (b := s)).symm
  rw [encode, bytes, ByteArray.toList, toList_loop _ _ 0 [] rfl, List.toList_data_toByteArray]
  rfl

/-! ### Bytes of characters -/

@[simp]
theorem toNat_byte {k : Nat} (small : k < 256) : (UInt8.ofNat k).toNat = k := by
  rw [UInt8.toNat_ofNat']
  omega

/-- A character of ASCII is written as one byte, its number. -/
theorem encodeChar_of_ascii {c : Char} (ascii : c.toNat < 0x80) :
    String.utf8EncodeChar c = [UInt8.ofNat c.toNat] := by
  have small : c.val.toNat ≤ 127 := Nat.le_of_lt_succ ascii
  exact if_pos small

/-- Every byte of a character above ASCII is above ASCII. -/
theorem le_of_mem_encodeChar {c : Char} (above : 0x80 ≤ c.toNat) {b : UInt8}
    (present : b ∈ String.utf8EncodeChar c) : 0x80 ≤ b.toNat := by
  have large : ¬ c.val.toNat ≤ 127 := Nat.not_le_of_gt above
  have byte : ∀ k : Nat, 128 ≤ k → k < 256 → 0x80 ≤ (UInt8.ofNat k).toNat := by
    intro k low high
    rw [toNat_byte high]
    exact low
  unfold String.utf8EncodeChar at present
  simp only [large, if_false] at present
  split at present
  · simp only [List.mem_cons, List.not_mem_nil, or_false] at present
    rcases present with rfl | rfl
    all_goals exact byte _ (by omega) (by omega)
  · split at present
    · simp only [List.mem_cons, List.not_mem_nil, or_false] at present
      rcases present with rfl | rfl | rfl
      all_goals exact byte _ (by omega) (by omega)
    · simp only [List.mem_cons, List.not_mem_nil, or_false] at present
      rcases present with rfl | rfl | rfl | rfl
      all_goals exact byte _ (by omega) (by omega)

/-- A text without the zero character has no zero byte. -/
theorem zero_notMem_encode {s : String} (plain : '\x00' ∉ s.toList) : 0 ∉ encode s := by
  rw [encode_eq_flatMap]
  intro present
  obtain ⟨c, among, byte⟩ := List.mem_flatMap.mp present
  by_cases ascii : c.toNat < 0x80
  · rw [encodeChar_of_ascii ascii, List.mem_singleton] at byte
    have zero : c.toNat = 0 := by
      rw [← toNat_byte (Nat.lt_trans ascii (by decide)), ← byte]
      rfl
    have isZero : c = '\x00' := by rw [← Char.ofNat_toNat c, zero]
    exact plain (isZero ▸ among)
  · have large := le_of_mem_encodeChar (Nat.le_of_not_lt ascii) byte
    exact absurd large (by decide)

/-! ### Reading a character -/

/-- A byte that is built as a continuation is in range. -/
theorem continues_byte {x lo hi : Nat} (low : lo ≤ x + 128) (high : x + 128 ≤ hi) (small : x < 64)
    (bound : hi < 256) :
    continues (UInt8.ofNat (x + 128)) (UInt8.ofNat lo) (UInt8.ofNat hi) = true := by
  simp only [continues, Bool.and_eq_true, decide_eq_true_eq, UInt8.le_iff_toNat_le]
  rw [toNat_byte (by omega), toNat_byte (by omega), toNat_byte (by omega)]
  exact ⟨low, high⟩

/-- A continuation byte adds six bits. -/
theorem extend_byte (n : Nat) {x : Nat} (small : x < 64) :
    extend n (UInt8.ofNat (x + 128)) = n * 64 + x := by
  rw [extend, toNat_byte (by omega)]
  omega

/-- Two bytes are read back as the character that they were made of. -/
theorem pair_bytes (n : Nat) {x : Nat} (small : x < 64) (rest : List UInt8) :
    pair n (UInt8.ofNat (x + 128) :: rest) = (some (Char.ofNat (n * 64 + x)), 1) := by
  have inside : continues (UInt8.ofNat (x + 128)) (UInt8.ofNat 128) (UInt8.ofNat 191) = true :=
    continues_byte (by omega) (by omega) small (by omega)
  change continues _ 0x80 0xBF = true at inside
  rw [pair, if_pos inside, extend_byte n small]

/-- So are three. -/
theorem triple_bytes (n : Nat) {x y lo hi : Nat} (low : lo ≤ x + 128) (high : x + 128 ≤ hi)
    (bound : hi < 256) (smallX : x < 64) (smallY : y < 64) (rest : List UInt8) :
    triple n (UInt8.ofNat lo) (UInt8.ofNat hi)
        (UInt8.ofNat (x + 128) :: UInt8.ofNat (y + 128) :: rest) =
      (some (Char.ofNat ((n * 64 + x) * 64 + y)), 2) := by
  rw [triple, if_pos (continues_byte low high smallX bound), extend_byte n smallX,
    pair_bytes _ smallY]

/-- So are four. -/
theorem quadruple_bytes (n : Nat) {x y z lo hi : Nat} (low : lo ≤ x + 128) (high : x + 128 ≤ hi)
    (bound : hi < 256) (smallX : x < 64) (smallY : y < 64) (smallZ : z < 64) (rest : List UInt8) :
    quadruple n (UInt8.ofNat lo) (UInt8.ofNat hi)
        (UInt8.ofNat (x + 128) :: UInt8.ofNat (y + 128) :: UInt8.ofNat (z + 128) :: rest) =
      (some (Char.ofNat (((n * 64 + x) * 64 + y) * 64 + z)), 3) := by
  have tail : triple (n * 64 + x) (UInt8.ofNat 128) (UInt8.ofNat 191)
      (UInt8.ofNat (y + 128) :: UInt8.ofNat (z + 128) :: rest) = _ :=
    triple_bytes (n * 64 + x) (by omega) (by omega) (by omega) smallY smallZ rest
  change triple _ 0x80 0xBF _ = _ at tail
  rw [quadruple, if_pos (continues_byte low high smallX bound), extend_byte n smallX, tail]

/-- The first byte of a piece decides by its number how the piece goes on. -/
theorem piece_byte {k : Nat} (small : k < 256) (rest : List UInt8) :
    piece (UInt8.ofNat k) rest =
      if k < 0x80 then (some (Char.ofNat k), 0)
      else if k < 0xC2 then (none, 0)
      else if k < 0xE0 then pair (k % 32) rest
      else if k = 0xE0 then triple 0 0xA0 0xBF rest
      else if k = 0xED then triple 13 0x80 0x9F rest
      else if k < 0xF0 then triple (k % 16) 0x80 0xBF rest
      else if k = 0xF0 then quadruple 0 0x90 0xBF rest
      else if k < 0xF4 then quadruple (k % 8) 0x80 0xBF rest
      else if k = 0xF4 then quadruple 4 0x80 0x8F rest
      else (none, 0) := by
  have below : ∀ n : Nat, n < 256 → (UInt8.ofNat k < UInt8.ofNat n ↔ k < n) := by
    intro n bound
    rw [UInt8.lt_iff_toNat_lt, toNat_byte small, toNat_byte bound]
  have same : ∀ n : Nat, n < 256 → ((UInt8.ofNat k == UInt8.ofNat n) = true ↔ k = n) := by
    intro n bound
    rw [beq_iff_eq, ← UInt8.toNat_inj, toNat_byte small, toNat_byte bound]
  unfold piece
  rw [toNat_byte small]
  simp only [show (0x80 : UInt8) = UInt8.ofNat 128 from rfl, show (0xC2 : UInt8) = UInt8.ofNat 194 from rfl,
    show (0xE0 : UInt8) = UInt8.ofNat 224 from rfl, show (0xED : UInt8) = UInt8.ofNat 237 from rfl,
    show (0xF0 : UInt8) = UInt8.ofNat 240 from rfl, show (0xF4 : UInt8) = UInt8.ofNat 244 from rfl,
    below _ (show 128 < 256 by omega), below _ (show 194 < 256 by omega),
    below _ (show 224 < 256 by omega), below _ (show 240 < 256 by omega),
    below _ (show 244 < 256 by omega), same _ (show 224 < 256 by omega),
    same _ (show 237 < 256 by omega), same _ (show 240 < 256 by omega),
    same _ (show 244 < 256 by omega)]

/-- Three bytes are read as the number that they were written for, unless it is none of a character. -/
theorem piece_three {v : Nat} (low : 0x800 ≤ v) (high : v ≤ 0xFFFF)
    (scalar : v < 0xD800 ∨ 0xDFFF < v) (rest : List UInt8) :
    piece (UInt8.ofNat (v / 4096 % 16 + 224))
        (UInt8.ofNat (v / 64 % 64 + 128) :: UInt8.ofNat (v % 64 + 128) :: rest) =
      (some (Char.ofNat v), 2) := by
  have value : ∀ n, n = v / 4096 → (n * 64 + v / 64 % 64) * 64 + v % 64 = v := by
    rintro n rfl
    omega
  rw [piece_byte (by omega), if_neg (by omega), if_neg (by omega), if_neg (by omega)]
  by_cases first : v / 4096 % 16 + 224 = 0xE0
  · rw [if_pos first]
    have read := triple_bytes 0 (show 0xA0 ≤ v / 64 % 64 + 128 by omega)
      (show v / 64 % 64 + 128 ≤ 0xBF by omega) (by omega) (by omega) (Nat.mod_lt v (by omega)) rest
    rwa [value 0 (by omega)] at read
  · rw [if_neg first]
    by_cases surrogate : v / 4096 % 16 + 224 = 0xED
    · rw [if_pos surrogate]
      have read := triple_bytes 13 (show 0x80 ≤ v / 64 % 64 + 128 by omega)
        (show v / 64 % 64 + 128 ≤ 0x9F by omega) (by omega) (by omega) (Nat.mod_lt v (by omega)) rest
      rwa [value 13 (by omega)] at read
    · rw [if_neg surrogate, if_pos (by omega)]
      have read := triple_bytes ((v / 4096 % 16 + 224) % 16) (show 0x80 ≤ v / 64 % 64 + 128 by omega)
        (show v / 64 % 64 + 128 ≤ 0xBF by omega) (by omega) (by omega) (Nat.mod_lt v (by omega)) rest
      rwa [value _ (by omega)] at read

/-- Four bytes are read as the number that they were written for, unless it is none of a character. -/
theorem piece_four {v : Nat} (low : 0x10000 ≤ v) (high : v < 0x110000) (rest : List UInt8) :
    piece (UInt8.ofNat (v / 262144 % 8 + 240))
        (UInt8.ofNat (v / 4096 % 64 + 128) :: UInt8.ofNat (v / 64 % 64 + 128) ::
          UInt8.ofNat (v % 64 + 128) :: rest) =
      (some (Char.ofNat v), 3) := by
  have value : ∀ n, n = v / 262144 →
      ((n * 64 + v / 4096 % 64) * 64 + v / 64 % 64) * 64 + v % 64 = v := by
    rintro n rfl
    omega
  rw [piece_byte (by omega), if_neg (by omega), if_neg (by omega), if_neg (by omega),
    if_neg (by omega), if_neg (by omega), if_neg (by omega)]
  by_cases first : v / 262144 % 8 + 240 = 0xF0
  · rw [if_pos first]
    have read := quadruple_bytes 0 (show 0x90 ≤ v / 4096 % 64 + 128 by omega)
      (show v / 4096 % 64 + 128 ≤ 0xBF by omega) (by omega) (by omega)
      (Nat.mod_lt (v / 64) (by omega)) (Nat.mod_lt v (by omega)) rest
    rwa [value 0 (by omega)] at read
  · rw [if_neg first]
    by_cases last : v / 262144 % 8 + 240 = 0xF4
    · rw [if_neg (by omega), if_pos last]
      have read := quadruple_bytes 4 (show 0x80 ≤ v / 4096 % 64 + 128 by omega)
        (show v / 4096 % 64 + 128 ≤ 0x8F by omega) (by omega) (by omega)
        (Nat.mod_lt (v / 64) (by omega)) (Nat.mod_lt v (by omega)) rest
      rwa [value 4 (by omega)] at read
    · rw [if_pos (by omega)]
      have read := quadruple_bytes ((v / 262144 % 8 + 240) % 8)
        (show 0x80 ≤ v / 4096 % 64 + 128 by omega) (show v / 4096 % 64 + 128 ≤ 0xBF by omega)
        (by omega) (by omega) (Nat.mod_lt (v / 64) (by omega)) (Nat.mod_lt v (by omega)) rest
      rwa [value _ (by omega)] at read

/-- The bytes of a character are read as that character. -/
theorem piece_encodeChar (c : Char) (rest : List UInt8) :
    ∃ b tail, String.utf8EncodeChar c = b :: tail ∧
      piece b (tail ++ rest) = (some c, tail.length) := by
  have scalar : c.val.toNat < 0xD800 ∨ 0xDFFF < c.val.toNat ∧ c.val.toNat < 0x110000 := c.valid
  have self : Char.ofNat c.val.toNat = c := Char.ofNat_toNat c
  unfold String.utf8EncodeChar
  by_cases one : c.val.toNat ≤ 127
  · refine ⟨_, _, if_pos one, ?_⟩
    rw [piece_byte (by omega), if_pos (by omega), self]
    rfl
  · by_cases two : c.val.toNat ≤ 2047
    · refine ⟨_, _, (if_neg one).trans (if_pos two), ?_⟩
      rw [piece_byte (by omega), if_neg (by omega), if_neg (by omega), if_pos (by omega)]
      have read := pair_bytes ((c.val.toNat / 64 % 32 + 192) % 32)
        (Nat.mod_lt c.val.toNat (show 64 > 0 by omega)) rest
      rwa [show (c.val.toNat / 64 % 32 + 192) % 32 * 64 + c.val.toNat % 64 = c.val.toNat by omega,
        self] at read
    · by_cases three : c.val.toNat ≤ 65535
      · refine ⟨_, _, ((if_neg one).trans (if_neg two)).trans (if_pos three), ?_⟩
        have read := piece_three (v := c.val.toNat) (by omega) three (by omega) rest
        rwa [self] at read
      · refine ⟨_, _, ((if_neg one).trans (if_neg two)).trans (if_neg three), ?_⟩
        have read := piece_four (v := c.val.toNat) (by omega) (by omega) rest
        rwa [self] at read

/-! ### Reading a text -/

/-- A character that is encoded is read back, whatever follows. -/
theorem scalars_encodeChar (c : Char) (rest : List UInt8) :
    scalars (String.utf8EncodeChar c ++ rest) = some c :: scalars rest := by
  obtain ⟨b, tail, bytes, read⟩ := piece_encodeChar c rest
  rw [bytes, List.cons_append, scalars, read, List.drop_left]

/-- A text is read back from its bytes. -/
theorem decode?_encode (s : String) : decode? (encode s) = some s := by
  have chars : ∀ cs : List Char, scalars (cs.flatMap String.utf8EncodeChar) = cs.map some := by
    intro cs
    induction cs with
    | nil =>
      rw [List.flatMap_nil, scalars]
      rfl
    | cons c rest ih => rw [List.flatMap_cons, scalars_encodeChar, ih, List.map_cons]
  have gathered : ∀ cs : List Char, (cs.map some).mapM id = some cs := by
    intro cs
    induction cs with
    | nil => rfl
    | cons c rest ih => simp [List.mapM_cons, ih]
  rw [decode?, encode_eq_flatMap, chars, gathered, Option.map_some, String.ofList_toList]

/-- Different texts have different bytes. -/
theorem encode_inj {s t : String} (same : encode s = encode t) : s = t := by
  have read := decode?_encode s
  rw [same, decode?_encode] at read
  exact (Option.some.inj read).symm

/-- Where no piece is ill formed, none is replaced. -/
theorem decodeLossy_of_decode? {bytes : List UInt8} {text : String} (read : decode? bytes = some text) :
    decodeLossy bytes = text := by
  have whole : ∀ (pieces : List (Option Char)) (chars : List Char), pieces.mapM id = some chars →
      (pieces.map fun c => c.getD (Char.ofNat 0xFFFD)) = chars := by
    intro pieces
    induction pieces with
    | nil =>
      rintro chars gathered
      cases gathered
      rfl
    | cons piece rest ih =>
      intro chars gathered
      rw [List.mapM_cons] at gathered
      obtain ⟨c, isChar, more⟩ := Option.bind_eq_some_iff.mp gathered
      obtain ⟨others, found, last⟩ := Option.bind_eq_some_iff.mp more
      cases isChar
      cases last
      rw [List.map_cons, ih others found]
      rfl
  obtain ⟨chars, gathered, rfl⟩ := Option.map_eq_some_iff.mp read
  rw [decodeLossy, whole _ chars gathered]

end DefectGraph.Text.Utf8
