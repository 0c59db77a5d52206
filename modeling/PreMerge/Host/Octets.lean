import PreMerge.Text.Utf8

/-! Texts as the host sees them: rows of bytes. Here each byte is the character with the same number, so that
letters of the Latin alphabet are written as they are. -/

namespace PreMerge.Host

/-- A text of the host, a byte a character. -/
abbrev Octets := List Char

namespace Octets

/-- The text of a row of bytes. -/
def ofBytes (bytes : List UInt8) : Octets :=
  bytes.map fun byte => Char.ofNat byte.toNat

/-- The row of bytes of a text. -/
def toBytes (text : Octets) : List UInt8 :=
  text.map fun c => c.toNat.toUInt8

/-- A text behind so many bytes from the start of a file. -/
def behind (content : ByteArray) : Nat → Octets → Octets
  | 0, text => text
  | count + 1, text => behind content count (Char.ofNat (content.get! count).toNat :: text)

/-- The text of a file. -/
def ofContent (content : ByteArray) : Octets :=
  behind content content.size []

/-- The file of a text. -/
def toContent (text : Octets) : ByteArray :=
  text.foldl (fun content c => content.push c.toNat.toUInt8) .empty

/-- The bytes of a string. -/
def ofString (text : String) : Octets :=
  ofContent text.toUTF8

/-- The string of a text; what is no well-formed UTF-8 is left out. -/
def toString (text : Octets) : String :=
  String.ofList (Text.Utf8.decode text.toBytes)

/-- The decimal digits of a number. -/
def ofNat (n : Nat) : Octets :=
  Nat.toDigits 10 n

/-- The decimal digits of a number, with a sign if it is negative. -/
def ofInt (n : Int) : Octets :=
  if n < 0 then '-' :: ofNat n.natAbs else ofNat n.natAbs

/-- Whether a text looks as if it were for people to read. Only the start of the first line counts, which may hold no
control characters but those that move to another place or shift to other characters. -/
def isReadable (text : Octets) : Bool :=
  ((text.take 128).takeWhile (· != '\n')).all fun c =>
    let n := c.toNat
    32 ≤ n && n != 127 || 9 ≤ n && n ≤ 15 || n == 27

/-- A text without its null characters. -/
def withoutNulls (text : Octets) : Octets :=
  if text.contains '\u0000' then text.filter (· != '\u0000') else text

/-- A text with another behind it. One with nothing behind it stays the text that it is. -/
def followedBy (text rest : Octets) : Octets :=
  if rest.isEmpty then text else text ++ rest

/-- Texts joined with another between each two. -/
def join (separator : Octets) (texts : List Octets) : Octets :=
  separator.intercalate texts

/-- Whether a character can start a name. -/
def startsName (c : Char) : Bool :=
  c.isAlpha || c == '_'

/-- Whether a character can be part of a name. -/
def isNameChar (c : Char) : Bool :=
  c.isAlphanum || c == '_'

/-- Whether a text is a name. -/
def isName : Octets → Bool
  | [] => false
  | c :: rest => startsName c && rest.all isNameChar

/-- Whether a character is white space to the host. -/
def isBlank (c : Char) : Bool :=
  c == ' ' || c == '\t' || c == '\n' || c == '\u000B' || c == '\u000C' || c == '\r'

/-- Whether one text comes before another, byte by byte. -/
def before : Octets → Octets → Bool
  | [], [] => false
  | [], _ :: _ => true
  | _ :: _, [] => false
  | c :: rest, d :: others => c < d || (c == d && before rest others)

/-- Texts in order. -/
def sort (texts : List Octets) : List Octets :=
  texts.mergeSort fun left right => !before right left

/-- The parts before and after the first place where a character occurs, if it does. -/
def splitAt? (mark : Char) (text : Octets) : Option (Octets × Octets) :=
  match text.dropWhile (· != mark) with
  | _ :: rest => some (text.takeWhile (· != mark), rest)
  | [] => none

/-- Whether a text occurs at the start of another; what follows it there. -/
def after? : Octets → Octets → Option Octets
  | [], text => some text
  | c :: start, d :: text => if c = d then after? start text else none
  | _ :: _, [] => none

/-- A text and all that is left of it after some of its first characters. -/
def suffixes : Octets → List Octets
  | [] => [[]]
  | c :: rest => (c :: rest) :: suffixes rest

theorem followedBy_eq (text rest : Octets) : text.followedBy rest = text ++ rest := by
  cases rest <;> simp [followedBy]

end Octets

theorem Octets.toBytes_ofBytes (bytes : List UInt8) : (ofBytes bytes).toBytes = bytes := by
  have id : ∀ byte : UInt8, (Char.ofNat byte.toNat).toNat.toUInt8 = byte := by
    intro byte
    have small : byte.toNat < 256 := byte.toNat_lt
    have valid : byte.toNat.isValidChar := Or.inl (by omega)
    have number : (Char.ofNat byte.toNat).toNat = byte.toNat := by
      rw [Char.ofNat, dif_pos valid]
      rfl
    rw [number]
    exact UInt8.ofNat_toNat
  simp [ofBytes, toBytes, Function.comp_def, id]

end PreMerge.Host
