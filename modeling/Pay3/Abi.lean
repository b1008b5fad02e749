import Mathlib.Data.List.Basic
import Mathlib.Data.Nat.Basic
import Mathlib.Tactic.NormNum

/-!
# Numbers as bytes, and arguments as words

A contract is called with bytes: four of them name a function, and the
arguments follow, 32 bytes each, the most significant byte first. An argument
of variable length is replaced by its offset; at the offset stand its length
and its bytes.

The lemmas say that what was written is read back, whatever follows it.
-/

/-- The bytes of a text. -/
def utf8 (s : String) : List UInt8 := s.toUTF8.data.toList

/-- A text is determined by its bytes. -/
theorem utf8_injective {s t : String} (h : utf8 s = utf8 t) : s = t := by
  have hdata : s.toUTF8.data = t.toUTF8.data := Array.toList_inj.mp h
  exact String.toByteArray_inj.mp (ByteArray.ext hdata)

namespace Abi

/-! ## Numbers -/

/-- The last `n` bytes of a number, the most significant first. -/
def toBytes : ℕ → ℕ → List UInt8
  | 0, _ => []
  | n + 1, value => toBytes n (value / 256) ++ [UInt8.ofNat value]

/-- The number some bytes write. -/
def ofBytes (bytes : List UInt8) : ℕ := bytes.foldl (fun acc b => acc * 256 + b.toNat) 0

@[simp] theorem length_toBytes (n value : ℕ) : (toBytes n value).length = n := by
  induction n generalizing value with
  | zero => rfl
  | succ n ih => rw [toBytes, List.length_append, ih, List.length_singleton]

theorem ofBytes_append_singleton (bytes : List UInt8) (b : UInt8) :
    ofBytes (bytes ++ [b]) = ofBytes bytes * 256 + b.toNat := by
  unfold ofBytes
  rw [List.foldl_append]
  rfl

/-- **A number is read back** up to the bytes there was room for. -/
theorem ofBytes_toBytes (n value : ℕ) : ofBytes (toBytes n value) = value % 256 ^ n := by
  induction n generalizing value with
  | zero =>
    rw [pow_zero, Nat.mod_one]
    rfl
  | succ n ih =>
    have hbyte : (UInt8.ofNat value).toNat = value % 256 := UInt8.toNat_ofNat'
    rw [toBytes, ofBytes_append_singleton, ih, hbyte, pow_succ', Nat.mod_mul, Nat.mul_comm,
      Nat.add_comm]

theorem ofBytes_toBytes_of_lt {n value : ℕ} (h : value < 256 ^ n) :
    ofBytes (toBytes n value) = value := by
  rw [ofBytes_toBytes, Nat.mod_eq_of_lt h]

/-- A number is determined by its bytes, when there are enough of them. -/
theorem toBytes_injective {n a b : ℕ} (ha : a < 256 ^ n) (hb : b < 256 ^ n)
    (h : toBytes n a = toBytes n b) : a = b := by
  rw [← ofBytes_toBytes_of_lt ha, ← ofBytes_toBytes_of_lt hb, h]

theorem toBytes_zero (n : ℕ) : toBytes n 0 = List.replicate n 0 := by
  induction n with
  | zero => rfl
  | succ n ih =>
    rw [toBytes, Nat.zero_div, ih, List.replicate_succ']
    rfl

/-- A small number is padded with zeros in front. -/
theorem toBytes_add_of_lt (m : ℕ) {n value : ℕ} (h : value < 256 ^ n) :
    toBytes (m + n) value = List.replicate m 0 ++ toBytes n value := by
  induction n generalizing value with
  | zero =>
    have hzero : value = 0 := by
      rw [pow_zero] at h
      omega
    rw [hzero, Nat.add_zero, toBytes_zero]
    exact (List.append_nil _).symm
  | succ n ih =>
    have hdiv : value / 256 < 256 ^ n := by
      rw [pow_succ] at h
      exact Nat.div_lt_of_lt_mul (by rw [Nat.mul_comm]; exact h)
    rw [← Nat.add_assoc, toBytes, toBytes, ih hdiv, List.append_assoc]

/-! ## Words -/

/-- Words one after the other. -/
def encodeWords (words : List ℕ) : List UInt8 := words.flatMap (toBytes 32)

@[simp] theorem encodeWords_nil : encodeWords [] = [] := rfl

@[simp] theorem encodeWords_cons (w : ℕ) (words : List ℕ) :
    encodeWords (w :: words) = toBytes 32 w ++ encodeWords words := rfl

theorem length_encodeWords (words : List ℕ) : (encodeWords words).length = 32 * words.length := by
  induction words with
  | nil => rfl
  | cons w words ih =>
    rw [encodeWords_cons, List.length_append, length_toBytes, ih, List.length_cons]
    omega

/-- The word that begins at an offset, if the data reach that far. -/
def wordAt (data : List UInt8) (offset : ℕ) : Option ℕ :=
  if ((data.drop offset).take 32).length = 32 then some (ofBytes ((data.drop offset).take 32))
  else none

/-- A word is read where it was written. -/
theorem wordAt_append {before after : List UInt8} {w : ℕ} (hw : w < 2 ^ 256) :
    wordAt (before ++ (toBytes 32 w ++ after)) before.length = some w := by
  unfold wordAt
  rw [List.drop_left, List.take_left' (length_toBytes 32 w), if_pos (length_toBytes 32 w),
    ofBytes_toBytes_of_lt (lt_of_lt_of_eq hw (by norm_num))]

/-- The word of the argument `k`. -/
def arg (args : List UInt8) (k : ℕ) : Option ℕ := wordAt args (32 * k)

/-- **An argument is read back**, whatever follows the arguments. -/
theorem arg_encodeWords {before after : List ℕ} {w : ℕ} (rest : List UInt8) (hw : w < 2 ^ 256) :
    arg (encodeWords (before ++ w :: after) ++ rest) before.length = some w := by
  have hdata : encodeWords (before ++ w :: after) ++ rest
      = encodeWords before ++ (toBytes 32 w ++ (encodeWords after ++ rest)) := by
    unfold encodeWords
    rw [List.flatMap_append, List.flatMap_cons, List.append_assoc, List.append_assoc]
  unfold arg
  rw [hdata, ← length_encodeWords]
  exact wordAt_append hw

/-- The bytes of variable length at an offset: their number, and then they. -/
def bytesAt (args : List UInt8) (offset : ℕ) : Option (List UInt8) := do
  let length ← wordAt args offset
  let bytes := (args.drop (offset + 32)).take length
  if bytes.length = length then some bytes else none

/-- **Bytes of variable length are read back**, whatever follows them. -/
theorem bytesAt_append {before bytes rest : List UInt8} (h : bytes.length < 2 ^ 256) :
    bytesAt (before ++ (toBytes 32 bytes.length ++ (bytes ++ rest))) before.length
      = some bytes := by
  have hbody : (before ++ (toBytes 32 bytes.length ++ (bytes ++ rest))).drop (before.length + 32)
      = bytes ++ rest := by
    rw [← List.drop_drop, List.drop_left]
    exact List.drop_left' (length_toBytes 32 bytes.length)
  unfold bytesAt
  rw [wordAt_append h]
  show (if _ then _ else _) = _
  rw [hbody, List.take_left, if_pos rfl]

end Abi
