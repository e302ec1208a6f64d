/-! Texts are lists of characters, measured in UTF-8 bytes and cut at the occurrences of a part. -/

namespace TokenGuard

/-- A text is the list of its characters. -/
abbrev Text := List Char

/-- A string literal may stand wherever a text is expected. -/
scoped instance : Coe String Text := ⟨String.toList⟩

namespace Text

/-- The UTF-8 bytes of a text. -/
def utf8 (text : Text) : List UInt8 := text.flatMap String.utf8EncodeChar

/-- The number of UTF-8 bytes of a text, which is the offset of whatever follows it. -/
def byteSize : Text → Nat
  | [] => 0
  | c :: rest => c.utf8Size + byteSize rest

/-- What follows a leading part, if the text starts with it. -/
def dropPrefix? : Text → Text → Option Text
  | [], text => some text
  | _ :: _, [] => none
  | p :: part, c :: rest => if p = c then dropPrefix? part rest else none

/-- A leading part and what follows it make up the text. -/
theorem dropPrefix?_eq_some_iff {part text after : Text} :
    dropPrefix? part text = some after ↔ text = part ++ after := by
  -- Both sides compare the leading characters one by one.
  induction part generalizing text with
  | nil => simp [dropPrefix?, eq_comm]
  | cons p part ih =>
    cases text with
    | nil => simp [dropPrefix?]
    | cons c rest =>
      by_cases same : p = c
      · simp [dropPrefix?, same, ih]
      · simp [dropPrefix?, same, Ne.symm same]

/-- The text before and the text after the first occurrence of a part. -/
def cut? (part : Text) : Text → Option (Text × Text)
  | [] => if part.isEmpty then some ([], []) else none
  | c :: rest =>
    match dropPrefix? part (c :: rest) with
    | some after => some ([], after)
    | none => (cut? part rest).map fun (before, after) => (c :: before, after)

/-- Whether a part occurs in a text. -/
def occursIn (part text : Text) : Bool := (cut? part text).isSome

/-- A cut loses nothing: the part stands between its two sides. -/
theorem eq_of_cut? {part text before after : Text} (found : cut? part text = some (before, after)) :
    text = before ++ part ++ after := by
  -- The first occurrence is either a prefix or lies behind the first character.
  fun_induction cut? part text generalizing before after with
  | case1 blank => simp_all
  | case2 => simp at found
  | case3 c rest tail isPrefix =>
    obtain ⟨rfl, rfl⟩ := by simpa using found
    simpa using dropPrefix?_eq_some_iff.mp isPrefix
  | case4 c rest _ ih =>
    obtain ⟨⟨left, right⟩, inner, same⟩ := Option.map_eq_some_iff.mp found
    obtain ⟨rfl, rfl⟩ := by simpa using same
    simp [ih inner]

/-- The pieces between the occurrences of a character, of which there is always at least one. -/
def splitAt (separator : Char) : Text → List Text
  | [] => [[]]
  | c :: rest =>
    if c = separator then [] :: splitAt separator rest
    else match splitAt separator rest with
      | piece :: pieces => (c :: piece) :: pieces
      | [] => [[c]]

/-- The lines of a text, which a line feed separates. -/
def lines (text : Text) : List Text := splitAt '\n' text

/-- The pieces in order, with a separator between neighbours. -/
def join (separator : Text) : List Text → Text
  | [] => []
  | [piece] => piece
  | piece :: pieces => piece ++ separator ++ join separator pieces

/-- The decimal digits of a number. -/
def ofNat (n : Nat) : Text := Nat.toDigits 10 n

/-- A text padded with spaces on its right to a width in characters. -/
def padRight (width : Nat) (text : Text) : Text :=
  text ++ List.replicate (width - text.length) ' '

/-- A text padded with spaces on its left to a width in characters. -/
def padLeft (width : Nat) (text : Text) : Text :=
  List.replicate (width - text.length) ' ' ++ text

/-- Byte-wise order of texts, which is the order of their character numbers. -/
def compareBytes (left right : Text) : Ordering := compareOfLessAndEq left right

end Text

end TokenGuard
