import GuardedSql.Proofs.FailingFunctions
import GuardedSql.Text.Utf16

/-!
# Text in two encodings

A text in UTF-8 is turned into UTF-16 and back again character by character. Two numbers of the
first plane are refused on the way to UTF-16, and stand for the replacement character from then on;
all other characters come back as they were.
-/

namespace GuardedSql

/-- The encodings that a text is kept in. -/
inductive Encoding where
  | utf8
  | utf16
  deriving DecidableEq

/-- The bytes of a text in an encoding. -/
def Encoding.bytes (text : String) : Encoding → ByteArray
  | .utf8 => text.toUTF8
  | .utf16 => ⟨(text.toList.flatMap fun c => Utf16.encodeScalar c.toNat).toArray⟩

/-- The bytes of a text in UTF-8, one character after another. -/
theorem Utf8.toList_toUTF8 (text : String) :
    text.toUTF8.toList = text.toList.flatMap String.utf8EncodeChar := by
  have hbytes : text.toUTF8 = (text.toList.flatMap String.utf8EncodeChar).toByteArray := by
    rw [String.toUTF8_eq_toByteArray]
    conv_lhs => rw [← String.ofList_toList (s := text), String.toByteArray_ofList]
    rfl
  rw [hbytes, toList_eq, List.toList_data_toByteArray]

namespace Utf16

/-- No character of a text is refused in UTF-16. -/
def Admits (text : String) : Prop := ∀ c ∈ text.toList, c.toNat ≠ 0xFFFE ∧ c.toNat ≠ 0xFFFF

instance (text : String) : Decidable (Admits text) :=
  List.decidableBAll (fun c : Char => c.toNat ≠ 0xFFFE ∧ c.toNat ≠ 0xFFFF) text.toList

/-! ### From UTF-8 to numbers -/

/-- Bytes do not go on with a character that has begun before them. -/
def IsFresh (bytes : List UInt8) : Prop := ∀ b ∈ bytes.head?, ¬(0x80 ≤ b ∧ b < 0xC0)

variable {n m : Nat} {rest : List UInt8}

theorem toNat_byte (h : n < 256) : (UInt8.ofNat n).toNat = n := UInt8.toNat_ofNat_of_lt' h

/-- Bytes are compared as their numbers are. -/
theorem byte_lt_iff (h : n < 256) (b : UInt8) : UInt8.ofNat n < b ↔ n < b.toNat := by
  rw [UInt8.lt_iff_toNat_lt, toNat_byte h]

theorem le_byte_iff (h : n < 256) (b : UInt8) : b ≤ UInt8.ofNat n ↔ b.toNat ≤ n := by
  rw [UInt8.le_iff_toNat_le, toNat_byte h]

/-- A character ends where another one begins. -/
theorem scalars_some (hrest : IsFresh rest) :
    scalars (some n) rest = scalars.settle n :: scalars none rest := by
  cases rest with
  | nil => rfl
  | cons b rest =>
    have hb : ¬(0x80 ≤ b ∧ b < 0xC0) := hrest b rfl
    simp only [scalars, Bool.and_eq_true, decide_eq_true_eq, if_neg hb]
    split <;> rfl

/-- A small byte is a character of its own. -/
theorem scalars_single (h : n < 0x80) :
    scalars none (UInt8.ofNat n :: rest) = n :: scalars none rest := by
  have hbyte : n < 256 := by omega
  have hsingle : ¬0xC0 ≤ UInt8.ofNat n := fun hlead => by
    have hlow : 0xC0 ≤ n := (le_byte_iff hbyte _).mp hlead
    omega
  rw [scalars, if_neg hsingle, toNat_byte hbyte]

/-- A large byte begins a character. -/
theorem scalars_lead (hlow : 0xC0 ≤ n) (hhigh : n < 256) :
    scalars none (UInt8.ofNat n :: rest) = scalars (some (leadBits (UInt8.ofNat n))) rest := by
  have hlead : 0xC0 ≤ UInt8.ofNat n := (le_byte_iff hhigh _).mpr hlow
  rw [scalars, if_pos hlead]

/-- A byte in between goes on with it. -/
theorem scalars_tail (h : m < 64) (hn : n < 0x1000000) :
    scalars (some n) (UInt8.ofNat (m + 128) :: rest) = scalars (some (n * 64 + m)) rest := by
  have hbyte : m + 128 < 256 := by omega
  have hlow : 0x80 ≤ UInt8.ofNat (m + 128) := (le_byte_iff hbyte _).mpr (Nat.le_add_left 128 m)
  have hhigh : UInt8.ofNat (m + 128) < 0xC0 := (byte_lt_iff hbyte _).mpr (Nat.add_lt_add_right h 128)
  have hvalue : (n * 64 + (m + 128 - 0x80)) % 0x100000000 = n * 64 + m := by omega
  rw [scalars]
  simp only [hlow, hhigh, decide_true, Bool.and_self, if_true, toNat_byte hbyte, hvalue]

/-- What the leading byte of two holds. -/
theorem leadBits_two (h : n < 32) : leadBits (UInt8.ofNat (n + 192)) = n := by
  have hbyte : n + 192 < 256 := by omega
  have htwo : UInt8.ofNat (n + 192) < 0xE0 :=
    (byte_lt_iff hbyte _).mpr (Nat.add_lt_add_right h 192)
  rw [leadBits, if_pos htwo, toNat_byte hbyte, Nat.add_sub_cancel]

/-- What the leading byte of three holds. -/
theorem leadBits_three (h : n < 16) : leadBits (UInt8.ofNat (n + 224)) = n := by
  have hbyte : n + 224 < 256 := by omega
  have htwo : ¬UInt8.ofNat (n + 224) < 0xE0 := fun hlt =>
    Nat.not_lt.mpr (Nat.le_add_left 224 n) ((byte_lt_iff hbyte _).mp hlt)
  have hthree : UInt8.ofNat (n + 224) < 0xF0 :=
    (byte_lt_iff hbyte _).mpr (Nat.add_lt_add_right h 224)
  rw [leadBits, if_neg htwo, if_pos hthree, toNat_byte hbyte, Nat.add_sub_cancel]

/-- What the leading byte of four holds. -/
theorem leadBits_four (h : n < 8) : leadBits (UInt8.ofNat (n + 240)) = n := by
  have hbyte : n + 240 < 256 := by omega
  have hlow := Nat.le_add_left 240 n
  have htwo : ¬UInt8.ofNat (n + 240) < 0xE0 := fun hlt => by
    have hlt' : n + 240 < 0xE0 := (byte_lt_iff hbyte _).mp hlt
    omega
  have hthree : ¬UInt8.ofNat (n + 240) < 0xF0 := fun hlt =>
    Nat.not_lt.mpr hlow ((byte_lt_iff hbyte _).mp hlt)
  have hfour : UInt8.ofNat (n + 240) < 0xF8 :=
    (byte_lt_iff hbyte _).mpr (Nat.add_lt_add_right h 240)
  rw [leadBits, if_neg htwo, if_neg hthree, if_pos hfour, toNat_byte hbyte, Nat.add_sub_cancel]

/-- The numbers that characters have. -/
theorem isValidChar_toNat (c : Char) : c.toNat < 0xD800 ∨ 0xDFFF < c.toNat ∧ c.toNat < 0x110000 :=
  c.valid

/-- A character of several bytes is what its bytes say, unless it is refused. -/
theorem settle_toNat {c : Char} (h : c.toNat ≠ 0xFFFE ∧ c.toNat ≠ 0xFFFF) (hlow : 0x80 ≤ c.toNat) :
    scalars.settle c.toNat = c.toNat := by
  have hvalid := isValidChar_toNat c
  have hkept : isRefused c.toNat = false := by
    simp only [isRefused, Bool.or_eq_false_iff, Bool.and_eq_false_iff, decide_eq_false_iff_not,
      beq_eq_false_iff_ne]
    omega
  rw [scalars.settle, hkept]
  rfl

/-- One character is read, whatever follows it. -/
theorem scalars_encode {c : Char} (h : c.toNat ≠ 0xFFFE ∧ c.toNat ≠ 0xFFFF) (hrest : IsFresh rest) :
    scalars none (String.utf8EncodeChar c ++ rest) = c.toNat :: scalars none rest := by
  have hvalid := isValidChar_toNat c
  have hsettle := settle_toNat h
  rw [String.utf8EncodeChar, show c.val.toNat = c.toNat from rfl]
  generalize c.toNat = n at hvalid hsettle
  split_ifs with hone htwo hthree
  · exact scalars_single (by omega)
  · have hvalue : n / 64 % 32 * 64 + n % 64 = n := by omega
    simp only [List.cons_append, List.nil_append]
    rw [scalars_lead (by omega) (by omega), leadBits_two (by omega),
      scalars_tail (by omega) (by omega), hvalue, scalars_some hrest, hsettle (by omega)]
  · have hvalue : (n / 4096 % 16 * 64 + n / 64 % 64) * 64 + n % 64 = n := by omega
    simp only [List.cons_append, List.nil_append]
    rw [scalars_lead (by omega) (by omega), leadBits_three (by omega),
      scalars_tail (by omega) (by omega), scalars_tail (by omega) (by omega), hvalue,
      scalars_some hrest, hsettle (by omega)]
  · have hvalue : ((n / 262144 % 8 * 64 + n / 4096 % 64) * 64 + n / 64 % 64) * 64 + n % 64 = n := by
      omega
    simp only [List.cons_append, List.nil_append]
    rw [scalars_lead (by omega) (by omega), leadBits_four (by omega),
      scalars_tail (by omega) (by omega), scalars_tail (by omega) (by omega),
      scalars_tail (by omega) (by omega), hvalue, scalars_some hrest, hsettle (by omega)]

/-- The first byte of a character goes on with none. -/
theorem isFresh_encode (c : Char) (rest : List UInt8) :
    IsFresh (String.utf8EncodeChar c ++ rest) := by
  have hvalid := isValidChar_toNat c
  have hlead {n : Nat} (hn : n < 0x80 ∨ 0xC0 ≤ n ∧ n < 256) :
      ¬(0x80 ≤ UInt8.ofNat n ∧ UInt8.ofNat n < 0xC0) := by
    rintro ⟨hlow, hhigh⟩
    have hbyte : n < 256 := by omega
    have hlow' : 0x80 ≤ n := (le_byte_iff hbyte _).mp hlow
    have hhigh' : n < 0xC0 := (byte_lt_iff hbyte _).mp hhigh
    omega
  intro b hb
  rw [String.utf8EncodeChar] at hb
  split_ifs at hb with hone htwo hthree
  all_goals
    obtain rfl := Option.some.inj hb
    exact hlead (by omega)

/-- The numbers of a text are those of its characters. -/
theorem scalars_flatMap {l : List Char} (h : ∀ c ∈ l, c.toNat ≠ 0xFFFE ∧ c.toNat ≠ 0xFFFF) :
    scalars none (l.flatMap String.utf8EncodeChar) = l.map Char.toNat := by
  induction l with
  | nil => rfl
  | cons c rest ih =>
    have hrest := ih fun x hx => h x (List.mem_cons_of_mem _ hx)
    have hfresh : IsFresh (rest.flatMap String.utf8EncodeChar) := by
      cases rest with
      | nil => exact fun b hb => by cases hb
      | cons next rest =>
        rw [List.flatMap_cons]
        exact isFresh_encode next _
    rw [List.flatMap_cons, scalars_encode (h c List.mem_cons_self) hfresh, hrest, List.map_cons]

/-- A text whose characters are admitted is turned into UTF-16. -/
theorem ofUtf8_toUTF8 {text : String} (h : Admits text) :
    ofUtf8 text.toUTF8 = Encoding.bytes text .utf16 := by
  rw [ofUtf8, Utf8.toList_toUTF8, scalars_flatMap h, List.flatMap_map]
  rfl

/-! ### From units to UTF-8 -/

/-- A unit is read from its two bytes. -/
theorem units_unitBytes (h : n < 0x10000) : units (unitBytes n ++ rest) = n :: units rest := by
  have hlow : n.toUInt8.toNat = n % 256 := UInt8.toNat_ofNat'
  have hhigh : (n / 256).toUInt8.toNat = n / 256 % 256 := UInt8.toNat_ofNat'
  have hvalue : n % 256 + 256 * (n / 256 % 256) = n := by omega
  rw [unitBytes]
  simp only [List.cons_append, List.nil_append, units, hlow, hhigh, hvalue]

/-- A number is read from its units, whatever follows them. -/
theorem joinUnits_encodeScalar (h : n < 0xD800 ∨ 0xDFFF < n ∧ n < 0x110000) :
    joinUnits none (units (encodeScalar n ++ rest)) = n :: joinUnits none (units rest) := by
  rw [encodeScalar]
  split_ifs with hone
  · have hsingle : ¬(0xD800 ≤ n ∧ n < 0xE000) := by omega
    rw [units_unitBytes (by omega), joinUnits]
    simp only [Bool.and_eq_true, decide_eq_true_eq, if_neg hsingle]
  · have hfirst : 0xD800 ≤ 0xD800 + (n - 0x10000) / 1024 % 1024 ∧
        0xD800 + (n - 0x10000) / 1024 % 1024 < 0xE000 := by omega
    have hvalue : (0xDC00 + (n - 0x10000) % 1024) % 1024 +
        (0xD800 + (n - 0x10000) / 1024 % 1024) % 64 * 1024 +
        ((0xD800 + (n - 0x10000) / 1024 % 1024) / 64 % 16 + 1) * 65536 = n := by omega
    dsimp only
    rw [List.append_assoc, units_unitBytes (by omega), units_unitBytes (by omega), joinUnits]
    simp only [Bool.and_eq_true, decide_eq_true_eq, if_pos hfirst]
    rw [joinUnits, hvalue]

/-- The units of some characters are joined to their numbers. -/
theorem joinUnits_flatMap (l : List Char) :
    joinUnits none (units (l.flatMap fun c => encodeScalar c.toNat)) = l.map Char.toNat := by
  induction l with
  | nil => rfl
  | cons c rest ih =>
    rw [List.flatMap_cons, joinUnits_encodeScalar (isValidChar_toNat c), ih, List.map_cons]

/-- The bytes of the number of a character are those of the character. -/
theorem utf8Bytes_toNat (c : Char) : utf8Bytes c.toNat = String.utf8EncodeChar c := by
  have hvalid := isValidChar_toNat c
  rw [String.utf8EncodeChar, show c.val.toNat = c.toNat from rfl, utf8Bytes]
  generalize c.toNat = n at hvalid
  simp only [Nat.add_comm 0xC0, Nat.add_comm 0xE0, Nat.add_comm 0xF0, Nat.add_comm 0x80]
  split_ifs <;> first | rfl | omega

/-- Every text comes back from UTF-16. -/
theorem toUtf8_bytes (text : String) :
    toUtf8 (Encoding.bytes text .utf16) = text.toUTF8 := by
  have hchars : (text.toList.map Char.toNat).flatMap utf8Bytes = text.toUTF8.toList := by
    rw [List.flatMap_map, Utf8.toList_toUTF8]
    exact List.flatMap_congr fun c _ => utf8Bytes_toNat c
  have hunits : (Encoding.bytes text .utf16).toList =
      text.toList.flatMap fun c => encodeScalar c.toNat := Utf8.toList_eq _
  rw [toUtf8, hunits, joinUnits_flatMap, hchars, Utf8.toList_eq]

end Utf16

end GuardedSql
