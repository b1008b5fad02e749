import Pay3.Abi

/-!
# The layout of arguments

The arguments of a call are laid out in two parts. The head has one word for each
argument. For an address, a number or 32 bytes that word is the argument; for bytes of
variable length it is an offset, counted from where the arguments begin, and there, in
the tail, stand their number, the bytes themselves, and zeros up to the next word.

`encode` lays arguments out in this way, the tails in the order of the arguments, and
`decode` reads arguments of given kinds wherever the offsets lead. Reading gives back
what was laid out (`decode_encode`), and the bytes are whole words (`dvd_length_encode`).
-/

namespace Abi

/-- The kinds of arguments. -/
inductive Kind
  | address
  | uint256
  | uint8
  | bytes32
  | bytes
  deriving DecidableEq, Repr

/-- **An argument.** -/
inductive Value
  | address (a : BitVec 160)
  | uint256 (n : BitVec 256)
  | uint8 (n : UInt8)
  | bytes32 (w : BitVec 256)
  | bytes (b : List UInt8)
  deriving DecidableEq, Repr

/-! ## Writing -/

/-- The zeros that fill a word up. -/
def padding (length : ℕ) : List UInt8 := List.replicate ((32 - length % 32) % 32) 0

theorem dvd_length_padding (length : ℕ) : 32 ∣ length + (padding length).length := by
  unfold padding
  rw [List.length_replicate]
  omega

theorem length_padding_lt (length : ℕ) : (padding length).length < 32 := by
  unfold padding
  rw [List.length_replicate]
  omega

namespace Value

/-- The kind of an argument. -/
def kind : Value → Kind
  | .address _ => .address
  | .uint256 _ => .uint256
  | .uint8 _ => .uint8
  | .bytes32 _ => .bytes32
  | .bytes _ => .bytes

/-- The word of an argument in the head, when its tail stands at an offset. -/
def headWord (offset : ℕ) : Value → ℕ
  | .address a => a.toNat
  | .uint256 n => n.toNat
  | .uint8 n => n.toNat
  | .bytes32 w => w.toNat
  | .bytes _ => offset

/-- What an argument has in the tail. -/
def tail : Value → List UInt8
  | .bytes b => toBytes 32 b.length ++ (b ++ padding b.length)
  | _ => []

theorem headWord_lt {offset : ℕ} (h : offset < 2 ^ 256) (v : Value) :
    v.headWord offset < 2 ^ 256 := by
  cases v with
  | address a => exact a.isLt.trans (by decide)
  | uint256 n => exact n.isLt
  | uint8 n => exact n.toNat_lt.trans (by decide)
  | bytes32 w => exact w.isLt
  | bytes b => exact h

theorem dvd_length_tail (v : Value) : 32 ∣ v.tail.length := by
  cases v with
  | bytes b =>
    rw [tail, List.length_append, List.length_append, length_toBytes]
    exact (Nat.dvd_add_right (dvd_refl 32)).mpr (dvd_length_padding b.length)
  | address a => exact dvd_zero 32
  | uint256 n => exact dvd_zero 32
  | uint8 n => exact dvd_zero 32
  | bytes32 w => exact dvd_zero 32

end Value

/-- The words of the head, the first tail being at an offset. -/
def headWords (offset : ℕ) : List Value → List ℕ
  | [] => []
  | v :: values => v.headWord offset :: headWords (offset + v.tail.length) values

/-- **The layout of arguments**: the head, and behind it the tails. -/
def encode (values : List Value) : List UInt8 :=
  encodeWords (headWords (32 * values.length) values) ++ values.flatMap Value.tail

@[simp] theorem length_headWords (offset : ℕ) (values : List Value) :
    (headWords offset values).length = values.length := by
  induction values generalizing offset with
  | nil => rfl
  | cons v values ih => rw [headWords, List.length_cons, List.length_cons, ih]

theorem length_encode (values : List Value) :
    (encode values).length = 32 * values.length + (values.flatMap Value.tail).length := by
  rw [encode, List.length_append, length_encodeWords, length_headWords]

/-- **The layout is whole words.** -/
theorem dvd_length_encode (values : List Value) : 32 ∣ (encode values).length := by
  have htails : 32 ∣ (values.flatMap Value.tail).length := by
    induction values with
    | nil => exact dvd_zero 32
    | cons v values ih =>
      rw [List.flatMap_cons, List.length_append]
      exact Nat.dvd_add v.dvd_length_tail ih
  rw [length_encode]
  exact Nat.dvd_add (dvd_mul_right 32 values.length) htails

/-! ## Reading -/

/-- The bytes of variable length at an offset, which zeros follow to the next word. -/
def paddedBytesAt (args : List UInt8) (offset : ℕ) : Option (List UInt8) := do
  let bytes ← bytesAt args offset
  let filling := (args.drop (offset + 32 + bytes.length)).take (padding bytes.length).length
  if filling = padding bytes.length then some bytes else none

/-- An argument of a kind, from its word in the head. -/
def Kind.read (args : List UInt8) : Kind → ℕ → Option Value
  | .address, w => if w < 2 ^ 160 then some (.address (BitVec.ofNat 160 w)) else none
  | .uint256, w => some (.uint256 (BitVec.ofNat 256 w))
  | .uint8, w => if w < 2 ^ 8 then some (.uint8 (UInt8.ofNat w)) else none
  | .bytes32, w => some (.bytes32 (BitVec.ofNat 256 w))
  | .bytes, offset => (paddedBytesAt args offset).map Value.bytes

/-- The arguments of given kinds from argument `k` on. -/
def decodeFrom (args : List UInt8) (k : ℕ) : List Kind → Option (List Value)
  | [] => some []
  | kind :: kinds => do
    let w ← arg args k
    let v ← kind.read args w
    let values ← decodeFrom args (k + 1) kinds
    some (v :: values)

/-- **How arguments of given kinds are read.** -/
def decode (kinds : List Kind) (args : List UInt8) : Option (List Value) := decodeFrom args 0 kinds

/-! ## What was laid out is read back -/

theorem paddedBytesAt_append {before bytes rest : List UInt8} (h : bytes.length < 2 ^ 256) :
    paddedBytesAt (before ++ ((Value.bytes bytes).tail ++ rest)) before.length = some bytes := by
  have hbytes := @bytesAt_append before bytes (padding bytes.length ++ rest) h
  have hdata : before ++ ((Value.bytes bytes).tail ++ rest)
      = before ++ (toBytes 32 bytes.length ++ (bytes ++ (padding bytes.length ++ rest))) := by
    rw [Value.tail, List.append_assoc, List.append_assoc]
  have hdrop : (before ++ (toBytes 32 bytes.length ++ (bytes ++ (padding bytes.length ++ rest)))).drop
      (before.length + 32 + bytes.length) = padding bytes.length ++ rest := by
    rw [← List.drop_drop, ← List.drop_drop, List.drop_left,
      List.drop_left' (length_toBytes 32 bytes.length), List.drop_left]
  unfold paddedBytesAt
  rw [hdata, hbytes]
  show (if _ then _ else _) = _
  rw [hdrop, List.take_left, if_pos rfl]

/-- An argument is read back from its word and its tail. -/
theorem Value.read_headWord {v : Value} {before rest : List UInt8}
    (h : v.tail.length < 2 ^ 256) :
    v.kind.read (before ++ (v.tail ++ rest)) (v.headWord before.length) = some v := by
  cases v with
  | address a =>
    rw [headWord, kind, Kind.read, if_pos a.isLt, BitVec.ofNat_toNat, BitVec.setWidth_eq]
  | uint256 n => rw [headWord, kind, Kind.read, BitVec.ofNat_toNat, BitVec.setWidth_eq]
  | uint8 n => rw [headWord, kind, Kind.read, if_pos n.toNat_lt, UInt8.ofNat_toNat]
  | bytes32 w => rw [headWord, kind, Kind.read, BitVec.ofNat_toNat, BitVec.setWidth_eq]
  | bytes b =>
    have hlength : b.length < 2 ^ 256 := by
      refine lt_of_le_of_lt ?_ h
      rw [tail, List.length_append, List.length_append]
      omega
    rw [headWord, kind, Kind.read, paddedBytesAt_append hlength]
    rfl

/-- The arguments that are left are read back; `words` and `before` are the words and
the tails of those that were read already. -/
theorem decodeFrom_headWords {values : List Value} : ∀ {words : List ℕ} {before : List UInt8}
    {offset : ℕ}, offset = 32 * (words.length + values.length) + before.length →
    offset + (values.flatMap Value.tail).length < 2 ^ 256 →
    decodeFrom (encodeWords (words ++ headWords offset values)
        ++ (before ++ values.flatMap Value.tail)) words.length (values.map Value.kind)
      = some values := by
  induction values with
  | nil => exact fun _ _ => rfl
  | cons v values ih =>
    intro words before offset hoffset hlt
    rw [List.flatMap_cons, List.length_append] at hlt
    set args := encodeWords (words ++ headWords offset (v :: values))
      ++ (before ++ (v :: values).flatMap Value.tail) with hargs
    have hword : arg args words.length = some (v.headWord offset) :=
      arg_encodeWords _ (v.headWord_lt (by omega))
    have hvalue : v.kind.read args (v.headWord offset) = some v := by
      have hlength : (encodeWords (words ++ headWords offset (v :: values)) ++ before).length
          = offset := by
        rw [List.length_append, length_encodeWords, List.length_append, length_headWords, hoffset]
      have hdata : args = (encodeWords (words ++ headWords offset (v :: values)) ++ before)
          ++ (v.tail ++ values.flatMap Value.tail) := by
        rw [hargs, List.flatMap_cons, List.append_assoc]
      have hread := @Value.read_headWord v
        (encodeWords (words ++ headWords offset (v :: values)) ++ before)
        (values.flatMap Value.tail) (by omega)
      rwa [hlength, ← hdata] at hread
    have hrest : decodeFrom args (words.length + 1) (values.map Value.kind) = some values := by
      have hstep := @ih (words ++ [v.headWord offset]) (before ++ v.tail) (offset + v.tail.length)
        (by
          rw [List.length_append, List.length_append, List.length_singleton, hoffset,
            List.length_cons]
          omega)
        (by omega)
      have hdata : args = encodeWords (words ++ [v.headWord offset]
          ++ headWords (offset + v.tail.length) values)
            ++ (before ++ v.tail ++ values.flatMap Value.tail) := by
        rw [hargs, headWords, List.flatMap_cons, List.append_assoc words, List.append_assoc before]
        rfl
      rwa [List.length_append, List.length_singleton, ← hdata] at hstep
    rw [List.map_cons, decodeFrom, hword]
    show (v.kind.read args (v.headWord offset)).bind _ = _
    rw [hvalue]
    show (decodeFrom args (words.length + 1) (values.map Value.kind)).bind _ = _
    rw [hrest]
    rfl

/-- **Arguments are read back as they were laid out.** -/
theorem decode_encode (values : List Value) (h : (encode values).length < 2 ^ 256) :
    decode (values.map Value.kind) (encode values) = some values := by
  rw [length_encode] at h
  refine @decodeFrom_headWords values [] [] (32 * values.length) ?_ h
  rw [List.length_nil, List.length_nil, Nat.zero_add, Nat.add_zero]

end Abi
