import TokenGuard.Json.Value

/-! Writing JSON values, on one line without blanks or spread over indented lines. -/

namespace TokenGuard.Json.Value

/-- A value on one line, without blanks. -/
def compact : Value → Text
  | null => "null"
  | boolean true => "true"
  | boolean false => "false"
  | number value => value.text
  | string value => encodeString value
  | array items => ['['] ++ compactItems items ++ [']']
  | object members => ['\x7b'] ++ compactMembers members ++ ['\x7d']
where
  compactItems : List Value → Text
    | [] => []
    | [item] => item.compact
    | item :: items => item.compact ++ [','] ++ compactItems items
  compactMembers : List (Text × Value) → Text
    | [] => []
    | [(key, value)] => encodeString key ++ [':'] ++ value.compact
    | (key, value) :: members =>
      encodeString key ++ [':'] ++ value.compact ++ [','] ++ compactMembers members

/-- The start of a line at a level of indentation. -/
def newLine (level : Nat) : Text := '\n' :: List.replicate (2 * level) ' '

/-- A value over several lines, indented by two blanks for each level. -/
def pretty (level : Nat) : Value → Text
  | array [] => "[]"
  | object [] => "\x7b\x7d"
  | array items => ['['] ++ prettyItems (level + 1) items ++ newLine level ++ [']']
  | object members =>
    ['\x7b'] ++ prettyMembers (level + 1) members ++ newLine level ++ ['\x7d']
  | value => value.compact
where
  prettyItems (level : Nat) : List Value → Text
    | [] => []
    | [item] => newLine level ++ item.pretty level
    | item :: items => newLine level ++ item.pretty level ++ [','] ++ prettyItems level items
  prettyMembers (level : Nat) : List (Text × Value) → Text
    | [] => []
    | [(key, value)] => newLine level ++ encodeString key ++ ": " ++ value.pretty level
    | (key, value) :: members =>
      newLine level ++ encodeString key ++ ": " ++ value.pretty level ++ [','] ++
        prettyMembers level members

/-- A number that counts something. -/
def ofNat (n : Nat) : Value := number (.integer n)

/-- An array of strings. -/
def ofTexts (texts : List Text) : Value := array (texts.map string)

end TokenGuard.Json.Value
