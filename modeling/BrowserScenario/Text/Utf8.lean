/-!
# Reading UTF-8

A byte sequence is read one character at a time. Where no character can be read the reader says
which bytes are at fault and why: a byte that starts no character, a byte that cannot continue
the character begun before it, or the end of the bytes inside a character. A file may be read as
a whole, or in blocks, in which case positions are counted inside a block and an unfinished
character is carried over to the next one.
-/

namespace BrowserScenario.Text

/-- Why bytes are not a character. -/
inductive Utf8Fault
  | invalidStart
  | invalidContinuation
  | unexpectedEnd
deriving DecidableEq, Repr

/-- Bytes that are not UTF-8: the first of them, where they start, how many they are, and why. -/
structure Utf8Failure where
  byte : UInt8
  start : Nat
  count : Nat
  fault : Utf8Fault
deriving DecidableEq, Repr

/-- The wording of a fault. -/
def Utf8Fault.message : Utf8Fault → String
  | .invalidStart => "invalid start byte"
  | .invalidContinuation => "invalid continuation byte"
  | .unexpectedEnd => "unexpected end of data"

/-- The two lower-case hexadecimal digits of a byte. -/
def byteHex (b : UInt8) : String :=
  let digits := Nat.toDigits 16 b.toNat
  String.ofList (if digits.length < 2 then '0' :: digits else digits)

/-- The wording of a failure: one byte is shown, several are located. -/
def Utf8Failure.message (failure : Utf8Failure) : String :=
  let place :=
    if failure.count ≤ 1 then
      "byte 0x" ++ byteHex failure.byte ++ " in position " ++ toString failure.start
    else
      "bytes in position " ++ toString failure.start ++ "-"
        ++ toString (failure.start + failure.count - 1)
  "'utf-8' codec can't decode " ++ place ++ ": " ++ failure.fault.message

/-- What the bytes at hand begin with. -/
inductive Utf8Step
  | char (c : Char) (rest : List UInt8)
  | invalid (fault : Utf8Fault) (count : Nat)
  | unfinished
deriving Repr

/-- A byte that continues a character. -/
def isContinuation (b : UInt8) : Bool :=
  b.toNat / 64 == 2

/-- The low six bits of a continuation byte. -/
def continuationBits (b : UInt8) : Nat :=
  b.toNat % 64

/-- Whether a byte may come second after a given first byte: no overlong forms, no surrogates,
nothing above the last code point. -/
def isSecond (first second : UInt8) : Bool :=
  let f := first.toNat
  let s := second.toNat
  isContinuation second
    && !(f == 0xE0 && s < 0xA0) && !(f == 0xED && s ≥ 0xA0)
    && !(f == 0xF0 && s < 0x90) && !(f == 0xF4 && s ≥ 0x90)

/-- The number of bytes of a character that starts with a byte, or zero if none does. -/
def sequenceLength (first : UInt8) : Nat :=
  let f := first.toNat
  if f < 0x80 then 1
  else if f < 0xC2 then 0
  else if f < 0xE0 then 2
  else if f < 0xF0 then 3
  else if f < 0xF5 then 4
  else 0

/-- The first step of reading bytes. -/
def utf8Step (first : UInt8) (rest : List UInt8) : Utf8Step :=
  match sequenceLength first, rest with
  | 0, _ => .invalid .invalidStart 1
  | 1, _ => .char (Char.ofNat first.toNat) rest
  | _, [] => .unfinished
  | 2, b :: rest =>
    if !isSecond first b then .invalid .invalidContinuation 1
    else .char (Char.ofNat (first.toNat % 32 * 64 + continuationBits b)) rest
  | 3, [b] => if !isSecond first b then .invalid .invalidContinuation 1 else .unfinished
  | 3, b :: c :: rest =>
    if !isSecond first b then .invalid .invalidContinuation 1
    else if !isContinuation c then .invalid .invalidContinuation 2
    else
      .char (Char.ofNat (first.toNat % 16 * 4096 + continuationBits b * 64 + continuationBits c))
        rest
  | _, [b] => if !isSecond first b then .invalid .invalidContinuation 1 else .unfinished
  | _, [b, c] =>
    if !isSecond first b then .invalid .invalidContinuation 1
    else if !isContinuation c then .invalid .invalidContinuation 2
    else .unfinished
  | _, b :: c :: d :: rest =>
    if !isSecond first b then .invalid .invalidContinuation 1
    else if !isContinuation c then .invalid .invalidContinuation 2
    else if !isContinuation d then .invalid .invalidContinuation 3
    else
      .char
        (Char.ofNat (first.toNat % 8 * 262144 + continuationBits b * 4096
          + continuationBits c * 64 + continuationBits d))
        rest

/-- A step to a character uses up at least the first byte. -/
theorem utf8Step_rest_le {first : UInt8} {bytes rest : List UInt8} {c : Char}
    (h : utf8Step first bytes = .char c rest) : rest.length ≤ bytes.length := by
  unfold utf8Step at h
  split at h <;> (try split at h) <;> (try split at h) <;> (try split at h) <;>
    simp_all <;> omega

/-- The two first bytes of a surrogate, which a reader of blocks leaves for the next block. -/
def isSurrogateStart : List UInt8 → Bool
  | [a, b] => a.toNat == 0xED && 0xA0 ≤ b.toNat && b.toNat ≤ 0xBF
  | _ => false

/-- The characters of a byte sequence, with the bytes of an unfinished character at its end.
Characters read so far are kept in reverse; `start` counts the bytes before. -/
def utf8Chars (read : List Char) (start : Nat) :
    List UInt8 → Except Utf8Failure (List Char × List UInt8)
  | [] => .ok (read.reverse, [])
  | first :: bytes =>
    match h : utf8Step first bytes with
    | .char c rest => utf8Chars (c :: read) (start + 1 + (bytes.length - rest.length)) rest
    | .unfinished => .ok (read.reverse, first :: bytes)
    | .invalid fault count =>
      if isSurrogateStart (first :: bytes) then .ok (read.reverse, first :: bytes)
      else .error ⟨first, start, count, fault⟩
termination_by bytes => bytes.length
decreasing_by
  have := utf8Step_rest_le h
  simp only [List.length_cons]
  omega

/-- The failure that bytes left over at the end are. -/
def leftoverFailure (start : Nat) : List UInt8 → Option Utf8Failure
  | [] => none
  | first :: bytes =>
    if isSurrogateStart (first :: bytes) then some ⟨first, start, 1, .invalidContinuation⟩
    else some ⟨first, start, bytes.length + 1, .unexpectedEnd⟩

/-- The characters of a whole byte sequence. -/
def decodeUtf8 (bytes : List UInt8) : Except Utf8Failure (List Char) :=
  match utf8Chars [] 0 bytes with
  | .error failure => .error failure
  | .ok (chars, leftover) =>
    match leftoverFailure (bytes.length - leftover.length) leftover with
    | none => .ok chars
    | some failure => .error failure

/-- The number of bytes that a reader of blocks takes at a time. -/
def blockSize : Nat := 8192

/-- The characters of a byte sequence read in blocks, after the bytes carried over. -/
def decodeUtf8Blocks (carried bytes : List UInt8) : Except Utf8Failure (List Char) :=
  if _h : bytes = [] then
    match leftoverFailure 0 carried with
    | none => .ok []
    | some failure => .error failure
  else
    match utf8Chars [] 0 (carried ++ bytes.take blockSize) with
    | .error failure => .error failure
    | .ok (chars, leftover) =>
      match decodeUtf8Blocks leftover (bytes.drop blockSize) with
      | .error failure => .error failure
      | .ok more => .ok (chars ++ more)
termination_by bytes.length
decreasing_by
  have : 0 < bytes.length := List.length_pos_iff.mpr _h
  simp only [List.length_drop, blockSize]
  omega

/-- The bytes of a text. -/
def encodeUtf8 (s : String) : List UInt8 :=
  s.toUTF8.toList

end BrowserScenario.Text
