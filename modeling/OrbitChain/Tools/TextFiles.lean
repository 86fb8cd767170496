import Mathlib.Data.List.Basic

/-!
# Text files

The tools write texts to files as UTF-8 and read them back line by line. A text is the list of its
characters.
-/

set_option autoImplicit false
set_option relaxedAutoImplicit false

namespace OrbitChain.Tools

/-- The characters with the Unicode property `White_Space`. -/
def isWhitespace (c : Char) : Bool :=
  let n := c.toNat
  (9 ≤ n && n ≤ 13) || n = 32 || n = 0x85 || n = 0xa0 || n = 0x1680 ||
    (0x2000 ≤ n && n ≤ 0x200a) || n = 0x2028 || n = 0x2029 || n = 0x202f || n = 0x205f ||
    n = 0x3000

/-- The line is empty when trimmed. -/
def isBlank (line : List Char) : Bool := line.all isWhitespace

/-- The bytes of a text. -/
def toUtf8 (text : List Char) : ByteArray := (String.ofList text).toUTF8

/-- The text of a file, if its bytes are valid UTF-8. -/
def readToString (content : ByteArray) : Option (List Char) :=
  (String.fromUTF8? content).map String.toList

theorem toUtf8_append (text text' : List Char) :
    toUtf8 (text ++ text') = toUtf8 text ++ toUtf8 text' := by
  rw [toUtf8, String.ofList_append]
  rfl

@[simp] theorem readToString_toUtf8 (text : List Char) :
    readToString (toUtf8 text) = some text := by
  rw [readToString, String.fromUTF8?, toUtf8, String.toUTF8_eq_toByteArray,
    dif_pos (String.ofList text).isValidUTF8]
  exact congrArg some String.toList_ofList

/-- The text of a file is the one it was written from. -/
theorem readToString_eq_some_iff {content : ByteArray} {text : List Char} :
    readToString content = some text ↔ content = toUtf8 text := by
  constructor
  · intro h
    obtain ⟨string, hstring, rfl⟩ := Option.map_eq_some_iff.mp h
    rw [toUtf8, String.ofList_toList]
    unfold String.fromUTF8? at hstring
    split_ifs at hstring
    obtain rfl := Option.some.inj hstring
    rfl
  · rintro rfl
    exact readToString_toUtf8 text

/-- The bytes of a text start with the bytes of its parts alone. -/
theorem prefix_of_toUtf8_append {part text : List Char} (rest : ByteArray)
    (h : toUtf8 part ++ rest = toUtf8 text) : part <+: text := by
  simp only [toUtf8, String.toUTF8_eq_toByteArray, String.toByteArray_ofList] at h
  exact List.isPrefix_of_utf8Encode_append_eq_utf8Encode rest h

end OrbitChain.Tools
