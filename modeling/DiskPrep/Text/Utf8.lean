import DiskPrep.Text.Basic

/-!
Bytes and text. Writing is UTF-8; reading accepts any bytes and shows each
longest piece that begins no character as one replacement character. A text may
also stand for bytes one by one, which is how tools see it.
-/
namespace DiskPrep.Text

def utf8 (t : Text) : List UInt8 := t.flatMap String.utf8EncodeChar

/-- Bytes as text in which each character stands for the byte of its number. -/
def ofBytes (bytes : List UInt8) : Text := bytes.map fun b => Char.ofNat b.toNat

def toBytes (t : Text) : List UInt8 := t.map fun c => UInt8.ofNat c.toNat

/-- The byte can only follow the first byte of a character. -/
def isContinuation (b : UInt8) : Bool := 0x80 ≤ b && b ≤ 0xBF

/-- The bytes allowed after a first byte of a three-byte character: neither an
overlong form nor a surrogate. -/
def followsThree (first b : UInt8) : Bool :=
  if first = 0xE0 then 0xA0 ≤ b && b ≤ 0xBF
  else if first = 0xED then 0x80 ≤ b && b ≤ 0x9F
  else isContinuation b

/-- The bytes allowed after a first byte of a four-byte character: neither an
overlong form nor a value above the last code point. -/
def followsFour (first b : UInt8) : Bool :=
  if first = 0xF0 then 0x90 ≤ b && b ≤ 0xBF
  else if first = 0xF4 then 0x80 ≤ b && b ≤ 0x8F
  else isContinuation b

/-- The six payload bits of a continuation byte. -/
def payload (b : UInt8) : Nat := b.toNat % 64

/-- Shown for bytes that belong to no character. -/
def replacement : Char := '\uFFFD'

/-- Text of any bytes. The piece replaced is the longest one that could still
have begun a character. -/
def ofUtf8 : List UInt8 → Text
  | [] => []
  | a :: rest =>
    if a < 0x80 then Char.ofNat a.toNat :: ofUtf8 rest
    else if 0xC2 ≤ a && a ≤ 0xDF then
      match rest with
      | b :: rest =>
        if isContinuation b then
          Char.ofNat ((a.toNat % 32) * 64 + payload b) :: ofUtf8 rest
        else replacement :: ofUtf8 (b :: rest)
      | [] => [replacement]
    else if 0xE0 ≤ a && a ≤ 0xEF then
      match rest with
      | b :: c :: rest =>
        if followsThree a b then
          if isContinuation c then
            Char.ofNat ((a.toNat % 16) * 4096 + payload b * 64 + payload c) :: ofUtf8 rest
          else replacement :: ofUtf8 (c :: rest)
        else replacement :: ofUtf8 (b :: c :: rest)
      | [b] => if followsThree a b then [replacement] else replacement :: ofUtf8 [b]
      | [] => [replacement]
    else if 0xF0 ≤ a && a ≤ 0xF4 then
      match rest with
      | b :: c :: d :: rest =>
        if followsFour a b then
          if isContinuation c then
            if isContinuation d then
              Char.ofNat ((a.toNat % 8) * 262144 + payload b * 4096 + payload c * 64 + payload d)
                :: ofUtf8 rest
            else replacement :: ofUtf8 (d :: rest)
          else replacement :: ofUtf8 (c :: d :: rest)
        else replacement :: ofUtf8 (b :: c :: d :: rest)
      | [b, c] =>
        if followsFour a b then
          if isContinuation c then [replacement] else replacement :: ofUtf8 [c]
        else replacement :: ofUtf8 [b, c]
      | [b] => if followsFour a b then [replacement] else replacement :: ofUtf8 [b]
      | [] => [replacement]
    else replacement :: ofUtf8 rest

def bytewise (t : Text) : Text := ofBytes (utf8 t)

def ofBytewise (t : Text) : Text := ofUtf8 (toBytes t)

end DiskPrep.Text
