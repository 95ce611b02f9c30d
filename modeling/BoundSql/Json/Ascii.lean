import BoundSql.Json.Basic

/-!
JSON text in ASCII. Outside quotes the compact text is ASCII already; inside, every other
character is escaped by its UTF-16 units, which read back as the same character.
-/

namespace BoundSql.Json

def escapeUnit (unit : Nat) : List Char :=
  '\\' :: 'u' :: [unit / 4096 % 16, unit / 256 % 16, unit / 16 % 16, unit % 16].map hexDigit

def asciiChar (c : Char) : List Char :=
  let code := c.toNat
  if code < 0x80 then [c]
  else if code < 0x10000 then escapeUnit code
  else
    escapeUnit (0xD800 + (code - 0x10000) / 0x400) ++ escapeUnit (0xDC00 + (code - 0x10000) % 0x400)

def ascii (json : Json) : String := String.ofList (json.compact.toList.flatMap asciiChar)

end BoundSql.Json
